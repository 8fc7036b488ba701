/-
# Which settings hold

A value is taken from the command line, from the environment, from the file of the working
directory or from the file for all working directories, the first of these that has one; only the
base of the catalog has a value of last resort. Vendors are gathered from both files instead, each
once, in the order in which they first appear. A file that is absent, cannot be read or makes no
sense has no values, and takes nothing away from the others. A file that the operator names stands
in for both, with what it has or with nothing.

Key definitions: `FirstAppearances`, `Settings.Consults`, `Settings.Adds`, `Invocation.Configured`,
`Invocation.CarriesOut`, `CommandLine.Levels`.
Key theorems: `FirstAppearances.unique`, `FirstAppearances.append`, `Settings.read?_yields_iff`,
`Invocation.load_yields_iff`, `CommandLine.read_run`, `settings_precedence`.
-/
import Mathlib.Data.List.Nodup
import FlashStation.Proofs.Talk
import FlashStation.Proofs.Words
import FlashStation.Shell.Run

namespace FlashStation

open Program

/-! ### Values that are gathered -/

section
variable {α : Type} [DecidableEq α] {all gathered gathered' : List α}

/-- The values of a list, each once, in the order in which they first appear in it. -/
structure FirstAppearances (all gathered : List α) : Prop where
  /-- They are the values of the list. -/
  mem_iff : ∀ a, a ∈ gathered ↔ a ∈ all
  /-- There is each once. -/
  nodup : gathered.Nodup
  /-- One that comes before another appears first. -/
  ordered : gathered.Pairwise fun a b => all.idxOf a < all.idxOf b

theorem FirstAppearances.nil : FirstAppearances ([] : List α) [] :=
  ⟨fun _ => Iff.rfl, .nil, .nil⟩

/-- There is one way to gather values. -/
theorem FirstAppearances.unique (h : FirstAppearances all gathered)
    (h' : FirstAppearances all gathered') : gathered = gathered' := by
  have perm : gathered.Perm gathered' := by
    rw [List.perm_ext_iff_of_nodup h.nodup h'.nodup]
    intro a
    rw [h.mem_iff, h'.mem_iff]
  refine perm.eq_of_pairwise ?_ h.ordered h'.ordered
  intro a b _ _ before after
  omega

/-- A further value is put at the end if it is not there yet. -/
theorem FirstAppearances.snoc (h : FirstAppearances all gathered) (v : α) :
    FirstAppearances (all ++ [v]) (if gathered.contains v then gathered else gathered ++ [v]) := by
  have ordered : gathered.Pairwise fun a b => (all ++ [v]).idxOf a < (all ++ [v]).idxOf b := by
    refine h.ordered.imp_of_mem fun {a b} ha hb before => ?_
    rw [List.idxOf_append_of_mem ((h.mem_iff a).mp ha), List.idxOf_append_of_mem ((h.mem_iff b).mp hb)]
    exact before
  by_cases there : v ∈ gathered
  · rw [if_pos (List.contains_iff_mem.mpr there)]
    refine ⟨fun a => ?_, h.nodup, ordered⟩
    have known := (h.mem_iff v).mp there
    rw [h.mem_iff, List.mem_append, List.mem_singleton]
    exact ⟨.inl, fun either => either.elim id fun same => same ▸ known⟩
  · rw [if_neg (mt List.contains_iff_mem.mp there)]
    have fresh : v ∉ all := mt (h.mem_iff v).mpr there
    refine ⟨fun a => ?_, ?_, ?_⟩
    · rw [List.mem_append, List.mem_append, h.mem_iff]
    · exact List.nodup_append.mpr ⟨h.nodup, List.nodup_singleton v, by
        rintro a ha b hb rfl
        exact there (List.mem_singleton.mp hb ▸ ha)⟩
    · refine List.pairwise_append.mpr ⟨ordered, List.pairwise_singleton _ _, fun a ha b hb => ?_⟩
      rw [List.mem_singleton.mp hb, List.idxOf_append_of_mem ((h.mem_iff a).mp ha),
        List.idxOf_append_of_notMem fresh]
      have := List.idxOf_lt_length_of_mem ((h.mem_iff a).mp ha)
      omega

/-- Values of another list are put behind those that are there, as far as they are new. -/
theorem FirstAppearances.append (h : FirstAppearances all gathered) (more : List α) :
    FirstAppearances (all ++ more)
      (more.foldl (fun vs v => if vs.contains v then vs else vs ++ [v]) gathered) := by
  induction more generalizing all gathered with
  | nil => exact (List.append_nil all).symm ▸ h
  | cons v more ih =>
    have whole := ih (h.snoc v)
    rw [List.append_assoc] at whole
    exact whole

end

/-! ### Files of settings -/

namespace Settings

/-- A note is added to the diagnostic log. -/
def noted (level : Level) (message : String) : Exchange Shell :=
  ⟨.system (.note ⟨level, .settings, message⟩), ()⟩

/-- A file of settings is looked at, and comes to settings or to none. -/
inductive Consults (path : String) : List (Exchange Shell) → Option Settings → Prop where
  /-- It is absent. -/
  | absent : Consults path [⟨.holds path, false⟩] none
  /-- It cannot be read. -/
  | unreadable (fault : ReadFault) :
      Consults path [⟨.holds path, true⟩, ⟨.read path, .error fault⟩,
        noted .warn s!"Failed to read config file {path}: {fault.message}"] none
  /-- It is no text. -/
  | garbled {bytes : List UInt8} (h : Text.Utf8.decode? bytes = none) :
      Consults path [⟨.holds path, true⟩, ⟨.read path, .ok bytes⟩,
        noted .warn
          s!"Failed to read config file {path}: stream did not contain valid UTF-8"] none
  /-- It makes no sense. -/
  | malformed {bytes : List UInt8} {document : String}
      (h : Text.Utf8.decode? bytes = some document)
      (senseless : (Toml.read? document).bind ofMembers? = none) :
      Consults path [⟨.holds path, true⟩, ⟨.read path, .ok bytes⟩,
        noted .warn s!"Failed to parse config file {path}: {tomlMark}"] none
  /-- It has settings. -/
  | parsed {bytes : List UInt8} {document : String} {settings : Settings}
      (h : Text.Utf8.decode? bytes = some document)
      (sense : (Toml.read? document).bind ofMembers? = some settings) :
      Consults path [⟨.holds path, true⟩, ⟨.read path, .ok bytes⟩] (some settings)

/-- A note of this module is answered with nothing to tell. -/
theorem note_inv {level : Level} {message : String} {α : Type} {next : Unit → Program Shell α}
    {talk : List (Exchange Shell)} {a : α} (h : ((note level message).bind next).Yields talk a) :
    ∃ rest, talk = noted level message :: rest ∧ (next ()).Yields rest a := by
  obtain ⟨⟨⟩, rest, rfl, h1⟩ := Yields.call_inv (S := Shell) (.system (.note _)) h
  exact ⟨rest, rfl, h1⟩

theorem note_yields (level : Level) (message : String) {α : Type} {next : Unit → Program Shell α}
    {talk : List (Exchange Shell)} {a : α} (h : (next ()).Yields talk a) :
    ((note level message).bind next).Yields (noted level message :: talk) a :=
  .asked (S := Shell) (.system (.note _)) () h

/-- What is done with a file of settings is one way to consult it. -/
theorem read?_consults {path : String} {talk : List (Exchange Shell)} {r : Option Settings}
    (h : (read? path).Yields talk r) : Consults path talk r := by
  obtain ⟨there, _, rfl, h1⟩ := Yields.call_inv (S := Shell) (.holds path) h
  cases there with
  | false =>
    obtain ⟨rfl, rfl⟩ := h1.done_inv
    exact .absent
  | true =>
    obtain ⟨answer, _, rfl, h2⟩ := Yields.call_inv (S := Shell) (.read path) h1
    cases answer with
    | error fault =>
      obtain ⟨_, rfl, h3⟩ := note_inv h2
      obtain ⟨rfl, rfl⟩ := h3.done_inv
      exact .unreadable fault
    | ok bytes =>
      simp only [done_bind] at h2
      cases decoded : Text.Utf8.decode? bytes with
      | none =>
        rw [decoded] at h2
        obtain ⟨_, rfl, h3⟩ := note_inv h2
        obtain ⟨rfl, rfl⟩ := h3.done_inv
        exact .garbled decoded
      | some document =>
        simp only [decoded] at h2
        cases sense : (Toml.read? document).bind ofMembers? with
        | none =>
          rw [sense] at h2
          obtain ⟨_, rfl, h3⟩ := note_inv h2
          obtain ⟨rfl, rfl⟩ := h3.done_inv
          exact .malformed decoded sense
        | some settings =>
          rw [sense] at h2
          obtain ⟨rfl, rfl⟩ := h2.done_inv
          exact .parsed decoded sense

/-- Each way to consult a file of settings is open. -/
theorem Consults.yields {path : String} {talk : List (Exchange Shell)} {r : Option Settings}
    (h : Consults path talk r) : (read? path).Yields talk r := by
  cases h with
  | absent => exact .asked (S := Shell) (.holds path) false (.done _)
  | unreadable fault =>
    refine .asked (S := Shell) (.holds path) true ?_
    exact .asked (S := Shell) (.read path) (.error fault) (note_yields .warn _ (.done _))
  | @garbled bytes decoded =>
    refine .asked (S := Shell) (.holds path) true ?_
    refine .asked (S := Shell) (.read path) (.ok bytes) ?_
    simp only [done_bind, decoded]
    exact note_yields .warn _ (.done _)
  | @malformed bytes document decoded senseless =>
    refine .asked (S := Shell) (.holds path) true ?_
    refine .asked (S := Shell) (.read path) (.ok bytes) ?_
    simp only [done_bind, decoded, senseless]
    exact note_yields .warn _ (.done _)
  | @parsed bytes document settings decoded sense =>
    refine .asked (S := Shell) (.holds path) true ?_
    refine .asked (S := Shell) (.read path) (.ok bytes) ?_
    simp only [done_bind, decoded, sense]
    exact .done _

/-- **A file of settings is absent, unreadable, malformed or has settings.** -/
theorem read?_yields_iff {path : String} {talk : List (Exchange Shell)} {r : Option Settings} :
    (read? path).Yields talk r ↔ Consults path talk r :=
  ⟨read?_consults, Consults.yields⟩

/-! ### Several files -/

/-- A file is consulted on top of others, and it is told if it has settings. -/
inductive Adds (kind path : String) : List (Exchange Shell) → Option Settings → Prop where
  | nothing {talk : List (Exchange Shell)} (h : Consults path talk none) : Adds kind path talk none
  | settings {talk : List (Exchange Shell)} {s : Settings} (h : Consults path talk (some s)) :
      Adds kind path (talk ++ [noted .debug s!"Loaded {kind} config from {path}"]) (some s)

/-- The file for all working directories is consulted, if there is a place for it. -/
inductive AddsGlobal : Option String → List (Exchange Shell) → Option Settings → Prop where
  | nowhere : AddsGlobal none [] none
  | file {path : String} {talk : List (Exchange Shell)} {found : Option Settings}
      (h : Adds "global" path talk found) : AddsGlobal (some path) talk found

/-- The file that the operator names is consulted, and it is told what came of it. -/
inductive Names (path : String) : List (Exchange Shell) → Option Settings → Prop where
  | nothing {talk : List (Exchange Shell)} (h : Consults path talk none) :
      Names path (talk ++ [noted .warn s!"Could not load config from {path}, using defaults"]) none
  | settings {talk : List (Exchange Shell)} {s : Settings} (h : Consults path talk (some s)) :
      Names path (talk ++ [noted .debug s!"Loaded config from {path}"]) (some s)

/-- Settings with those of a file on top, if it has any. -/
def topped (s : Settings) (found : Option Settings) : Settings :=
  found.elim s s.merge

/-- The port that a file sets. -/
def portOf (found : Option Settings) : Option String :=
  found.bind (·.port)

/-- The base that a file sets. -/
def baseOf (found : Option Settings) : Option String :=
  found.bind (·.base)

/-- The vendors that a file lists. -/
def vendorsOf (found : Option Settings) : List UInt16 :=
  found.elim [] (·.vendors)

section
variable {talk : List (Exchange Shell)} {r : Settings}

theorem add_yields_iff {s : Settings} {kind path : String} :
    (add s kind path).Yields talk r ↔ ∃ found, Adds kind path talk found ∧ r = s.topped found := by
  constructor
  · intro h
    obtain ⟨found, before, after, rfl, h1, h2⟩ := Yields.bind_inv (p := read? path) h
    have consulted := read?_yields_iff.mp h1
    cases found with
    | none =>
      obtain ⟨rfl, rfl⟩ := h2.done_inv
      exact ⟨none, (List.append_nil before).symm ▸ .nothing consulted, rfl⟩
    | some more =>
      obtain ⟨_, rfl, h3⟩ := note_inv h2
      obtain ⟨rfl, rfl⟩ := h3.done_inv
      exact ⟨some more, .settings consulted, rfl⟩
  · rintro ⟨found, adds, rfl⟩
    cases adds with
    | nothing consulted =>
      exact List.append_nil talk ▸ (read?_yields_iff.mpr consulted).bind (.done s)
    | settings consulted =>
      exact (read?_yields_iff.mpr consulted).bind (note_yields .debug _ (.done _))

theorem loadFound_yields_iff {global : Option String} :
    (loadFound global).Yields talk r ↔ ∃ before after g l, talk = before ++ after ∧
      AddsGlobal global before g ∧ Adds "local" localPath after l ∧
        r = (empty.topped g).topped l := by
  cases global with
  | none =>
    show (add empty "local" localPath).Yields talk r ↔ _
    rw [add_yields_iff]
    constructor
    · rintro ⟨l, adds, rfl⟩
      exact ⟨[], talk, none, l, rfl, .nowhere, adds, rfl⟩
    · rintro ⟨_, after, _, l, rfl, ⟨⟩, adds, rfl⟩
      exact ⟨l, adds, rfl⟩
  | some path =>
    constructor
    · intro h
      obtain ⟨s, before, after, rfl, h1, h2⟩ := Yields.bind_inv (p := add empty "global" path) h
      obtain ⟨g, adds, rfl⟩ := add_yields_iff.mp h1
      obtain ⟨l, adds', rfl⟩ := add_yields_iff.mp h2
      exact ⟨before, after, g, l, rfl, .file adds, adds', rfl⟩
    · rintro ⟨before, after, g, l, rfl, ⟨⟩ | ⟨adds⟩, adds', rfl⟩
      exact (add_yields_iff.mpr ⟨g, adds, rfl⟩).bind (add_yields_iff.mpr ⟨l, adds', rfl⟩)

theorem loadNamed_yields_iff {path : String} :
    (loadNamed path).Yields talk r ↔ ∃ found, Names path talk found ∧ r = found.getD empty := by
  constructor
  · intro h
    obtain ⟨found, before, after, rfl, h1, h2⟩ := Yields.bind_inv (p := read? path) h
    have consulted := read?_yields_iff.mp h1
    cases found with
    | none =>
      obtain ⟨_, rfl, h3⟩ := note_inv h2
      obtain ⟨rfl, rfl⟩ := h3.done_inv
      exact ⟨none, .nothing consulted, rfl⟩
    | some s =>
      obtain ⟨_, rfl, h3⟩ := note_inv h2
      obtain ⟨rfl, rfl⟩ := h3.done_inv
      exact ⟨some _, .settings consulted, rfl⟩
  · rintro ⟨found, named, rfl⟩
    cases named with
    | nothing consulted => exact (read?_yields_iff.mpr consulted).bind (note_yields .warn _ (.done _))
    | settings consulted =>
      exact (read?_yields_iff.mpr consulted).bind (note_yields .debug _ (.done _))

end

section
variable (g l : Option Settings)

theorem topped_port : ((empty.topped g).topped l).port = (portOf l).or (portOf g) := by
  cases g <;> cases l <;> simp [topped, portOf, merge, empty]

theorem topped_base : ((empty.topped g).topped l).base = (baseOf l).or (baseOf g) := by
  cases g <;> cases l <;> simp [topped, baseOf, merge, empty]

/-- **The vendors of both files are gathered**, each once, in the order in which they appear. -/
theorem topped_vendors :
    FirstAppearances (vendorsOf g ++ vendorsOf l) ((empty.topped g).topped l).vendors := by
  have step (all : List UInt16) (s : Settings) (found : Option Settings)
      (h : FirstAppearances all s.vendors) :
      FirstAppearances (all ++ vendorsOf found) (s.topped found).vendors := by
    cases found with
    | none => exact (List.append_nil all).symm ▸ h
    | some more => exact h.append more.vendors
  have first := step [] empty g .nil
  rw [List.nil_append] at first
  exact step _ _ l first

end

end Settings

/-! ### Commands -/

namespace Invocation

/-- What is told first. -/
def banner (i : Invocation) : Exchange Shell :=
  ⟨.system (.note ⟨.debug, .program,
    s!"{programName} v{programVersion} (verbose level: {Text.decimal i.verbosity})"⟩), ()⟩

/-- Files are consulted, and what they set comes with what the command line and the environment say
to a base, a port and vendors. -/
inductive Configured (i : Invocation) (env : Environment) :
    List (Exchange Shell) → String → Option String → List UInt16 → Prop where
  /-- The files that are found. -/
  | found {before after : List (Exchange Shell)} {g l : Option Settings} {vendors : List UInt16}
      (unnamed : i.config = none)
      (global : Settings.AddsGlobal (Settings.globalPath env.configHome env.home) before g)
      (here : Settings.Adds "local" Settings.localPath after l)
      (gathered : FirstAppearances (Settings.vendorsOf g ++ Settings.vendorsOf l) vendors) :
      Configured i env (before ++ after)
        (((i.catalog.or (Settings.baseOf l)).or (Settings.baseOf g)).getD "public")
        ((i.port.or (Settings.portOf l)).or (Settings.portOf g)) vendors
  /-- The file that the operator names. -/
  | named {path : String} {talk : List (Exchange Shell)} {found : Option Settings}
      (named : i.config = some path) (h : Settings.Names path talk found) :
      Configured i env talk ((i.catalog.or (Settings.baseOf found)).getD "public")
        (i.port.or (Settings.portOf found)) (Settings.vendorsOf found)

/-- The command is carried out with a base, a port and vendors. -/
inductive CarriesOut (i : Invocation) (screen : Option Nat) (base : String) (port : Option String)
    (vendors : List UInt16) : List (Exchange Shell) → Except CommandFault Report → Prop where
  | listPorts {json all : Bool} {talk : List (Exchange Shell)} {report : Report}
      (asked : i.command = .listPorts json all)
      (h : (FlashStation.listPorts ⟨none, none, vendors⟩ json all).Yields talk report) :
      CarriesOut i screen base port vendors talk (.ok report)
  | catalog {json : Bool} {talk : List (Exchange Shell)} {r : Except CommandFault Report}
      (asked : i.command = .catalog json) (h : (listPackages base json).Yields talk r) :
      CarriesOut i screen base port vendors talk r
  | plan {source : PlanSource} {json : Bool} {talk : List (Exchange Shell)}
      {r : Except CommandFault Report} (asked : i.command = .plan source json)
      (h : (FlashStation.plan base source json i.quiet).Yields talk r) :
      CarriesOut i screen base port vendors talk r
  | reclaim {talk : List (Exchange Shell)} {r : Except CommandFault Report}
      (asked : i.command = .reclaim)
      (h : (reclaimPort ⟨none, none, vendors⟩
        ⟨port, if i.nonInteractive then none else screen⟩).Yields talk r) :
      CarriesOut i screen base port vendors talk r

variable {i : Invocation} {env : Environment} {screen : Option Nat} {talk : List (Exchange Shell)}
  {r : Except CommandFault Report}

theorem runWith_yields_iff (settings : Settings) :
    (i.runWith screen settings).Yields talk r ↔
      i.CarriesOut screen (i.base settings) (i.port.or settings.port) settings.vendors talk r := by
  unfold runWith
  constructor
  · intro h
    cases asked : i.command with
    | listPorts json all =>
      rw [asked] at h
      obtain ⟨report, listed, rfl⟩ := Yields.map_inv h
      exact .listPorts asked listed
    | catalog json =>
      rw [asked] at h
      exact .catalog asked h
    | plan source json =>
      rw [asked] at h
      exact .plan asked h
    | reclaim =>
      rw [asked] at h
      exact .reclaim asked h
  · intro h
    cases h with
    | listPorts asked h =>
      rw [asked]
      exact List.append_nil talk ▸ h.bind (.done _)
    | catalog asked h =>
      rw [asked]
      exact h
    | plan asked h =>
      rw [asked]
      exact h
    | reclaim asked h =>
      rw [asked]
      exact h

/-- **The files are consulted, and what they set comes with the command line and the environment to
a base, a port and vendors.** -/
theorem load_yields_iff {base : String} {port : Option String} {vendors : List UInt16} :
    (∃ settings, (Settings.load i.config (Settings.globalPath env.configHome env.home)).Yields talk
      settings ∧ base = i.base settings ∧ port = i.port.or settings.port ∧
        vendors = settings.vendors) ↔ i.Configured env talk base port vendors := by
  constructor
  · rintro ⟨settings, loaded, rfl, rfl, rfl⟩
    cases named : i.config with
    | none =>
      rw [named] at loaded
      obtain ⟨before, after, g, l, rfl, global, here, rfl⟩ :=
        Settings.loadFound_yields_iff.mp loaded
      have gathered := Settings.topped_vendors g l
      have configured := Configured.found named global here gathered
      rw [Option.or_assoc, Option.or_assoc, ← Settings.topped_base, ← Settings.topped_port]
        at configured
      exact configured
    | some path =>
      rw [named] at loaded
      obtain ⟨found, names, rfl⟩ := Settings.loadNamed_yields_iff.mp loaded
      have configured : Configured i env talk _ _ _ := .named named names
      cases found <;> exact configured
  · intro configured
    cases configured with
    | @found before after g l vendors unnamed global here gathered =>
      refine ⟨(Settings.empty.topped g).topped l, ?_, ?_, ?_, ?_⟩
      · rw [unnamed]
        exact Settings.loadFound_yields_iff.mpr
          ⟨before, after, g, l, rfl, global, here, rfl⟩
      · rw [Option.or_assoc, ← Settings.topped_base]
        rfl
      · rw [Option.or_assoc, ← Settings.topped_port]
      · exact gathered.unique (Settings.topped_vendors g l)
    | @named path talk found named names =>
      refine ⟨found.getD Settings.empty, ?_, ?_, ?_, ?_⟩
      · rw [named]
        exact Settings.loadNamed_yields_iff.mpr ⟨found, names, rfl⟩
      all_goals cases found <;> rfl

theorem run_yields_iff : (i.run env screen).Yields talk r ↔
    ∃ before after base port vendors, talk = i.banner :: (before ++ after) ∧
      i.Configured env before base port vendors ∧
        i.CarriesOut screen base port vendors after r := by
  constructor
  · intro h
    obtain ⟨⟨⟩, _, rfl, h1⟩ := Yields.call_inv (S := Shell) (.system (.note _)) h
    obtain ⟨settings, before, after, rfl, loaded, carried⟩ := Yields.bind_inv
      (p := Settings.load i.config (Settings.globalPath env.configHome env.home)) h1
    exact ⟨before, after, _, _, _, rfl, load_yields_iff.mp ⟨settings, loaded, rfl, rfl, rfl⟩,
      (runWith_yields_iff settings).mp carried⟩
  · rintro ⟨before, after, _, _, _, rfl, configured, carried⟩
    obtain ⟨settings, loaded, rfl, rfl, rfl⟩ := load_yields_iff.mpr configured
    refine .asked (S := Shell) (.system (.note _)) () ?_
    exact loaded.bind ((runWith_yields_iff settings).mpr carried)

end Invocation

/-! ### The command line -/

namespace CommandLine

/-- The options of a command line: those in front of the command, and those behind it. -/
inductive Levels (words : List String) : Given → Given → Prop where
  | split {name : CommandName} {word : String} {rest : List String} {outer inner : Given}
      {nothing : Option (String × List String)}
      (front : Given.readLevel Switch.shared (helpWord :: CommandName.all.map (·.word)) [] none
        words = .ok (outer, some (word, rest)))
      (named : CommandName.ofWord? word = some name)
      (behind : Given.readLevel (Switch.ofCommand name) [] [] none rest = .ok (inner, nothing)) :
      Levels words outer inner

/-- Help and misuse run nothing. -/
theorem ofHalt_ne_run (name : Option CommandName) (halt : Halt) (i : Invocation) :
    ofHalt name halt ≠ .run i := by
  cases halt <;> exact nofun

theorem readHelp_ne_run (words : List String) (i : Invocation) : readHelp words ≠ .run i := by
  unfold readHelp
  split
  · exact nofun
  · split
    · exact nofun
    · split <;> exact nofun
  · exact nofun

/-- **A value comes from the option behind the command, from the one in front of it or from the
environment.** -/
theorem read_run {env : Environment} {words : List String} {i : Invocation}
    (h : read env words = .run i) : ∃ outer inner, Levels words outer inner ∧
      i.catalog = ((inner.value? .catalog).or (outer.value? .catalog)).or env.catalog ∧
      i.port = ((inner.value? .port).or (outer.value? .port)).or env.port ∧
      i.config = (inner.value? .config).or (outer.value? .config) := by
  unfold read at h
  split at h
  · exact absurd h (ofHalt_ne_run _ _ i)
  · cases h
  · rename_i outer word rest front
    split at h
    · exact absurd h (readHelp_ne_run rest i)
    · rename_i name named
      split at h
      · exact absurd h (ofHalt_ne_run _ _ i)
      · rename_i inner nothing behind
        refine ⟨outer, inner, .split front named behind, ?_⟩
        unfold invocation at h
        cases asked : command name inner with
        | error halt =>
          rw [asked] at h
          exact absurd h (ofHalt_ne_run _ halt i)
        | ok what =>
          rw [asked] at h
          cases off : promptsOff env outer inner with
          | error halt =>
            rw [off] at h
            exact absurd h (ofHalt_ne_run _ halt i)
          | ok quiet =>
            rw [off] at h
            cases h
            exact ⟨rfl, rfl, rfl⟩

end CommandLine

/-- **Which settings hold.** A command consults files and is then carried out. If the operator names
no file, its base is that of the command line or the environment, else that of the file of the
working directory, else that of the file for all working directories, else `public`; its port is
found in the same places and may be missing; and vendors are gathered from both files, each once, in
the order in which they first appear. A file that is absent, unreadable or malformed has nothing of
these. If the operator names a file, it stands in for both. On the command line, an option behind
the command comes before one in front of it, and both come before the environment. -/
theorem settings_precedence :
    (∀ (i : Invocation) (env : Environment) (screen : Option Nat) (talk : List (Exchange Shell))
      (r : Except CommandFault Report), (i.run env screen).Yields talk r ↔
        ∃ before after base port vendors, talk = i.banner :: (before ++ after) ∧
          i.Configured env before base port vendors ∧
            i.CarriesOut screen base port vendors after r) ∧
    ∀ (env : Environment) (words : List String) (i : Invocation),
      CommandLine.read env words = .run i → ∃ outer inner, CommandLine.Levels words outer inner ∧
        i.catalog = ((inner.value? .catalog).or (outer.value? .catalog)).or env.catalog ∧
        i.port = ((inner.value? .port).or (outer.value? .port)).or env.port ∧
        i.config = (inner.value? .config).or (outer.value? .config) :=
  ⟨fun _ _ _ _ _ => Invocation.run_yields_iff, fun _ _ _ => CommandLine.read_run⟩

/-- The file for all working directories sets a port and lists a vendor twice, and the file of the
working directory is no text. -/
theorem broken_file_passed_over :
    let document := "[connection]\nport = \"ttyACM0\"\n[ports]\nextra_vendors = [4660, 9025, 4660]\n"
    let env : Environment := ⟨none, none, none, none, none, none, none, none, some "/home"⟩
    let path := "/home/.config/m4gflash/config.toml"
    let i : Invocation := ⟨none, none, 0, false, false, none, .listPorts true false⟩
    CommandLine.read env ["list-ports", "--json"] = .run i ∧
      (∃ outer inner, CommandLine.Levels ["list-ports", "--json"] outer inner ∧
        i.port = ((inner.value? .port).or (outer.value? .port)).or env.port) ∧
      ∃ before, i.Configured env before "public" (some "ttyACM0") [4660, 9025] ∧
        ⟨.read path, .ok (Text.Utf8.encode document)⟩ ∈ before ∧
        ⟨.read "m4gflash.toml", .ok [0xFF]⟩ ∈ before ∧
        (i.run env none).Yields (i.banner :: (before ++ [⟨.ports, .ok []⟩]))
          (.ok (.ofData [("ports", .arr [])])) := by
  intro document env path i
  have read : CommandLine.read env ["list-ports", "--json"] = .run i := by decide +kernel
  have sense : (Toml.read? document).bind Settings.ofMembers? =
      some ⟨some "ttyACM0", none, [4660, 9025, 4660]⟩ := by decide +kernel
  have place : Settings.globalPath env.configHome env.home = some path := by decide +kernel
  have consulted : Settings.Consults path _ _ :=
    .parsed (Text.Utf8.decode?_encode document) sense
  have global : Settings.AddsGlobal (some path) _ _ := .file (.settings consulted)
  rw [← place] at global
  have here : Settings.Adds "local" Settings.localPath _ _ :=
    .nothing (.garbled (show Text.Utf8.decode? [0xFF] = none by decide +kernel))
  have gathered : FirstAppearances ([4660, 9025, 4660] : List UInt16) [4660, 9025] :=
    FirstAppearances.nil.append [4660, 9025, 4660]
  have configured : i.Configured env _ "public" (some "ttyACM0") [4660, 9025] :=
    .found rfl global here gathered
  have listed : (listPorts ⟨none, none, [4660, 9025]⟩ true false).Yields [⟨.ports, .ok []⟩]
      (.ofData [("ports", .arr [])]) :=
    .asked (S := Shell) .ports (.ok []) (.done _)
  obtain ⟨runs, reads⟩ := settings_precedence
  obtain ⟨outer, inner, levels, -, port, -⟩ := reads env ["list-ports", "--json"] i read
  refine ⟨read, ⟨outer, inner, levels, port⟩, _, configured, ?_, ?_,
    (runs i env none _ _).mpr ⟨_, _, _, _, _, rfl, configured, .listPorts rfl listed⟩⟩
  · simp
  · simp [Settings.localPath]

end FlashStation
