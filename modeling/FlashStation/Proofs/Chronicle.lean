/-
# The law of the trail

Whatever is called on a trail, its entries are what was added since it was last cleared, in the
order of the calls, and the identifier of an entry is the number of entries that were ever added
before it. So identifiers rise, and none is used twice, not even after the trail was cleared.

Everybody who holds a handle of a trail, or a copy of one, adds to the same trail: the law holds
for the calls through all of them together. A loader's terminal is such a holder; all that it prints
is added as traces, and it has no way to remove an entry. The station only ever adds. While it runs,
whatever loaders print and whoever else adds something, entries stay where they are until an owner
of the trail clears it.

Key definitions: `TrailCall`, `Trail.after`, `Trail.numbered`, `Trail.Law`, `TerminalCall.Prints`,
`Sinks.Run`, `Happening`, `Traffic.Chronicle`.
Key theorems: `Trail.law`, `Trail.Law.ids_not_reused`, `TerminalCall.prints_iff`,
`Sinks.Run.lawful`, `Trail.during_prefix`, `trail_law`.
-/
import Mathlib.Data.List.Induction
import FlashStation.Proofs.Entries
import FlashStation.Proofs.Literals
import FlashStation.Proofs.Rehearsal

namespace FlashStation

/-! ### Calls on a trail -/

/-- A call on a trail. -/
inductive TrailCall where
  /-- Add an entry. -/
  | append (variant : Variant) (message : String)
  /-- Remove all entries. -/
  | clear
  /-- A loader uses its terminal. -/
  | terminal (call : TerminalCall)
  deriving DecidableEq, Repr

namespace TrailCall

/-- What a call adds. -/
def adds : TrailCall → List (Variant × String)
  | .append variant message => [(variant, message)]
  | .clear => []
  | .terminal call => call.traces.map fun line => (.trace, line)

/-- What some calls add, in the order of the calls. -/
def added (calls : List TrailCall) : List (Variant × String) :=
  calls.flatMap adds

theorem added_append (calls later : List TrailCall) :
    added (calls ++ later) = added calls ++ added later :=
  List.flatMap_append

theorem added_cons (c : TrailCall) (calls : List TrailCall) :
    added (c :: calls) = c.adds ++ added calls :=
  List.flatMap_cons

/-- Some calls begin with those up to the last that clears the trail, if there is one. -/
theorem last_clear (calls : List TrailCall) :
    ∃ before after, calls = before ++ after ∧ (before = [] ∨ before.getLast? = some .clear) ∧
      .clear ∉ after := by
  induction calls using List.reverseRecOn with
  | nil => exact ⟨[], [], rfl, .inl rfl, List.not_mem_nil⟩
  | append_singleton calls c ih =>
    by_cases clears : c = .clear
    · subst clears
      exact ⟨calls ++ [.clear], [], (List.append_nil _).symm, .inr (by simp), List.not_mem_nil⟩
    · obtain ⟨before, after, rfl, fresh, kept⟩ := ih
      refine ⟨before, after ++ [c], List.append_assoc _ _ _, fresh, fun found => ?_⟩
      rcases List.mem_append.mp found with found | found
      · exact kept found
      · exact clears (List.mem_singleton.mp found).symm

end TrailCall

namespace Trail

open TrailCall

/-- A trail after a call. -/
def apply (t : Trail) : TrailCall → Trail
  | .append variant message => t.append variant message
  | .clear => t.clear
  | .terminal call => t.print call

/-- A trail after some calls. -/
def after (t : Trail) (calls : List TrailCall) : Trail :=
  calls.foldl apply t

/-- Entries whose identifiers are counted up from a first one. -/
def numbered (first : Nat) (added : List (Variant × String)) : List Entry :=
  (added.zipIdx first).map fun a => ⟨a.2, a.1.1, a.1.2⟩

section
variable {first : Nat} {a b : List (Variant × String)}

theorem numbered_append (first : Nat) (a b : List (Variant × String)) :
    numbered first (a ++ b) = numbered first a ++ numbered (first + a.length) b := by
  simp [numbered, List.zipIdx_append]

theorem numbered_cons (first : Nat) (x : Variant × String) (a : List (Variant × String)) :
    numbered first (x :: a) = ⟨first, x.1, x.2⟩ :: numbered (first + 1) a :=
  rfl

/-- An entry is what stands at its place, counted from the first. -/
theorem origin_numbered {e : Entry} (h : e ∈ numbered first a) :
    first ≤ e.id ∧ a[e.id - first]? = some (e.variant, e.message) := by
  obtain ⟨⟨x, id⟩, hx, rfl⟩ := List.mem_map.mp h
  exact List.mk_mem_zipIdx_iff_le_and_getElem?_sub.mp hx

theorem rising_numbered : (numbered first a).Pairwise (·.id < ·.id) := by
  induction a generalizing first with
  | nil => exact .nil
  | cons x a ih =>
    rw [numbered_cons, List.pairwise_cons]
    refine ⟨fun e he => ?_, ih⟩
    have later := (origin_numbered he).1
    show first < e.id
    omega

end

/-! ### What calls come to -/

section
variable {t : Trail} {c : TrailCall} {calls : List TrailCall}

theorem after_append (t : Trail) (calls later : List TrailCall) :
    t.after (calls ++ later) = (t.after calls).after later :=
  List.foldl_append

theorem after_cons (t : Trail) (c : TrailCall) (calls : List TrailCall) :
    t.after (c :: calls) = (t.apply c).after calls :=
  rfl

/-- Lines are traced one after another. -/
theorem traced (t : Trail) (lines : List String) :
    let t' := lines.foldl (fun t line => t.append .trace line) t
    t'.entries = t.entries ++ numbered t.next (lines.map fun line => (.trace, line)) ∧
      t'.next = t.next + lines.length := by
  induction lines generalizing t with
  | nil => exact ⟨(List.append_nil _).symm, rfl⟩
  | cons line lines ih =>
    obtain ⟨entries, next⟩ := ih (t.append .trace line)
    constructor
    · rw [List.foldl_cons, entries, List.map_cons, numbered_cons]
      exact List.append_assoc _ _ _
    · rw [List.foldl_cons, next, List.length_cons]
      show t.next + 1 + lines.length = _
      omega

/-- The next identifier counts all additions. -/
theorem apply_next (t : Trail) (c : TrailCall) : (t.apply c).next = t.next + c.adds.length := by
  cases c with
  | append variant message => rfl
  | clear => rfl
  | terminal call =>
    rw [adds, List.length_map]
    exact (traced t call.traces).2

/-- A call that does not clear the trail leaves what is there, and adds its entries behind. -/
theorem apply_entries (kept : c ≠ .clear) :
    (t.apply c).entries = t.entries ++ numbered t.next c.adds := by
  cases c with
  | append variant message => rfl
  | clear => exact absurd rfl kept
  | terminal call => exact (traced t call.traces).1

theorem after_next (t : Trail) (calls : List TrailCall) :
    (t.after calls).next = t.next + (added calls).length := by
  induction calls generalizing t with
  | nil => rfl
  | cons c calls ih =>
    rw [after_cons, ih, apply_next, added_cons, List.length_append, Nat.add_assoc]

/-- As long as the trail is not cleared, additions come behind what is there. -/
theorem after_entries (kept : .clear ∉ calls) :
    (t.after calls).entries = t.entries ++ numbered t.next (added calls) := by
  induction calls generalizing t with
  | nil => exact (List.append_nil _).symm
  | cons c calls ih =>
    obtain ⟨first, more⟩ := not_or.mp (List.mem_cons.not.mp kept)
    rw [after_cons, ih more, apply_entries (Ne.symm first), apply_next, added_cons,
      numbered_append, List.append_assoc]

/-- There is no entry right after the trail was cleared. -/
theorem after_cleared (fresh : calls = [] ∨ calls.getLast? = some .clear) :
    (empty.after calls).entries = [] := by
  rcases fresh with rfl | last
  · rfl
  · obtain ⟨earlier, rfl⟩ := List.getLast?_eq_some_iff.mp last
    rw [after_append]
    rfl

end

/-- What a trail is like after some calls, if there was no entry at first. -/
structure Law (calls : List TrailCall) (t : Trail) : Prop where
  /-- Its entries are what was added since it was last cleared, in the order of the calls, numbered
  from the count of what had been added before. -/
  entries : ∃ before after, calls = before ++ after ∧
    (before = [] ∨ before.getLast? = some .clear) ∧ .clear ∉ after ∧
      t.entries = numbered (added before).length (added after)
  /-- The identifier of an entry is its place among all that was ever added. -/
  origin : ∀ e ∈ t.entries, (added calls)[e.id]? = some (e.variant, e.message)
  /-- Identifiers rise. -/
  rising : t.entries.Pairwise (·.id < ·.id)
  /-- The next identifier is the number of all that was ever added. -/
  next : t.next = (added calls).length

/-- **A trail obeys its law**, whatever the calls. -/
theorem law (calls : List TrailCall) : Law calls (empty.after calls) := by
  obtain ⟨before, after, rfl, fresh, kept⟩ := last_clear calls
  have base : (empty.after before).next = (added before).length := by
    rw [after_next]
    exact Nat.zero_add _
  have entries : (empty.after (before ++ after)).entries =
      numbered (added before).length (added after) := by
    rw [after_append, after_entries kept, after_cleared fresh, base, List.nil_append]
  refine ⟨⟨before, after, rfl, fresh, kept, entries⟩, fun e he => ?_, ?_, ?_⟩
  · rw [entries] at he
    obtain ⟨late, place⟩ := origin_numbered he
    rw [added_append, List.getElem?_append_right late, place]
  · rw [entries]
    exact rising_numbered
  · rw [after_next]
    exact Nat.zero_add _

/-- **No identifier is used twice**: of two moments, entries with one identifier are one entry. -/
theorem Law.ids_not_reused {calls later : List TrailCall} {t t' : Trail} (h : Law calls t)
    (h' : Law (calls ++ later) t') {e e' : Entry} (he : e ∈ t.entries) (he' : e' ∈ t'.entries)
    (same : e.id = e'.id) : e = e' := by
  have place := h.origin e he
  have place' := h'.origin e' he'
  have there : e.id < (added calls).length := (List.getElem?_eq_some_iff.mp place).1
  rw [added_append, ← same, List.getElem?_append_left there, place] at place'
  obtain ⟨id, variant, message⟩ := e
  obtain ⟨id', variant', message'⟩ := e'
  cases place'
  cases same
  rfl

end Trail

/-! ### Terminals -/

/-- What a loader prints with a call of its terminal. -/
inductive TerminalCall.Prints : TerminalCall → List String → Prop where
  /-- A line is printed as it is. -/
  | line (text : String) : Prints (.writeLine text) [text]
  /-- A fragment is printed without the blanks at its end, -/
  | fragment {text kept : String} {blanks : List Char} (split : text.toList = kept.toList ++ blanks)
      (blank : ∀ c ∈ blanks, Text.isBlank c = true) (some : kept ≠ "")
      (bare : Text.Bare kept.toList.reverse) : Prints (.write text) [kept]
  /-- and not at all if it is blank. -/
  | blank {text : String} (blank : ∀ c ∈ text.toList, Text.isBlank c = true) :
      Prints (.write text) []
  /-- The wish to wipe the screen is noted. -/
  | clean : Prints .clean ["[loader called terminal.clean() - ignoring to preserve debug logs]"]

namespace TerminalCall

/-- **What a terminal prints.** -/
theorem prints_iff (call : TerminalCall) (lines : List String) :
    call.Prints lines ↔ call.traces = lines := by
  constructor
  · intro prints
    cases prints with
    | line text => rfl
    | @fragment text kept blanks split blank some bare =>
      have left : Text.trimEnd text = kept := by
        rw [Text.trimEnd, Text.trimEndChars_eq split blank bare, String.ofList_toList]
      simp [traces, left, some]
    | @blank text blank =>
      have left : Text.trimEnd text = "" := by
        rw [Text.trimEnd, Text.trimEndChars_eq (List.nil_append _).symm blank nofun]
      simp [traces, left]
    | clean => rfl
  · rintro rfl
    cases call with
    | writeLine text => exact .line text
    | clean => exact .clean
    | write text =>
      obtain ⟨blanks, split, blank, bare⟩ := Text.trimEndChars_split text.toList
      by_cases none : Text.trimEnd text = ""
      · have left : Text.trimEndChars text.toList = [] := by
          rw [← String.toList_ofList (l := Text.trimEndChars text.toList)]
          exact congrArg String.toList none
        rw [left, List.nil_append] at split
        have untold : (write text).traces = [] := by simp [traces, none]
        rw [untold]
        exact .blank (split ▸ blank)
      · have told : (write text).traces = [Text.trimEnd text] := by simp [traces, none]
        rw [told]
        refine .fragment ?_ blank none ?_
        · rw [Text.trimEnd, String.toList_ofList]
          exact split
        · rw [Text.trimEnd, String.toList_ofList]
          exact bare

end TerminalCall

/-! ### Handles -/

/-- Trails, and for each handle that somebody holds the place of the trail it leads to. -/
structure Sinks where
  /-- The trails. -/
  trails : List Trail
  /-- The places that the handles lead to. -/
  handles : List Nat

/-- What can be done with handles. -/
inductive SinkOp where
  /-- Make a trail, and the first handle of it. -/
  | make
  /-- Copy a handle. -/
  | copy (handle : Nat)
  /-- Call the trail that a handle leads to. -/
  | call (handle : Nat) (call : TrailCall)
  deriving DecidableEq, Repr

namespace Sinks

/-- No trail, and no handle. -/
def none : Sinks := ⟨[], []⟩

/-- One thing is done with a handle that there is. A new handle comes last. -/
inductive Step (s : Sinks) : SinkOp → Sinks → Prop where
  | make : Step s .make ⟨s.trails ++ [.empty], s.handles ++ [s.trails.length]⟩
  | copy {i k : Nat} (h : s.handles[i]? = some k) : Step s (.copy i) ⟨s.trails, s.handles ++ [k]⟩
  | call {i k : Nat} (h : s.handles[i]? = some k) (c : TrailCall) :
      Step s (.call i c) ⟨s.trails.modify k (·.apply c), s.handles⟩

/-- Any number of things are done with handles, by whomever. -/
inductive Run (s : Sinks) : List SinkOp → Sinks → Prop where
  | here : Run s [] s
  | step {ops : List SinkOp} {s' s'' : Sinks} {op : SinkOp} (run : Run s ops s')
      (h : Step s' op s'') : Run s (ops ++ [op]) s''

theorem Run.trans {s s' s'' : Sinks} {ops later : List SinkOp} (run : Run s ops s')
    (run' : Run s' later s'') : Run s (ops ++ later) s'' := by
  induction run' with
  | here => exact (List.append_nil ops).symm ▸ run
  | step _ h ih => exact List.append_assoc ops _ _ ▸ ih.step h

/-- The call of an operation, if it goes through a handle of the trail at a place. -/
def call? (handles : List Nat) (k : Nat) : SinkOp → Option TrailCall
  | .call i c => if handles[i]? = some k then some c else .none
  | _ => .none

/-- The calls on the trail at a place, through whichever handle. -/
def heard (s : Sinks) (k : Nat) (ops : List SinkOp) : List TrailCall :=
  ops.filterMap (call? s.handles k)

/-- Handles were used only when they were there, they lead to trails, and each trail is what the
calls through its handles have made of it. -/
structure Sound (ops : List SinkOp) (s : Sinks) : Prop where
  used : ∀ i c, .call i c ∈ ops → i < s.handles.length
  held : ∀ k ∈ s.handles, k < s.trails.length
  kept : ∀ k t, s.trails[k]? = some t → t = Trail.empty.after (s.heard k ops)

section
variable {s s' : Sinks} {ops : List SinkOp} {op : SinkOp} {k : Nat}

theorem heard_append (s : Sinks) (k : Nat) (ops later : List SinkOp) :
    s.heard k (ops ++ later) = s.heard k ops ++ s.heard k later :=
  List.filterMap_append

/-- A new handle does not change what was called before. -/
theorem heard_grown (used : ∀ i c, .call i c ∈ ops → i < s.handles.length)
    {trails : List Trail} (more : List Nat) :
    heard ⟨trails, s.handles ++ more⟩ k ops = s.heard k ops := by
  refine List.filterMap_congr fun op hop => ?_
  cases op with
  | make => rfl
  | copy i => rfl
  | call i c => rw [call?, call?, List.getElem?_append_left (used i c hop)]

/-- Nothing was called on a trail that is not there. -/
theorem heard_absent (sound : Sound ops s) : s.heard s.trails.length ops = [] := by
  refine List.filterMap_eq_nil_iff.mpr fun op _ => ?_
  cases op with
  | make => rfl
  | copy i => rfl
  | call i c =>
    refine if_neg fun leads => ?_
    exact Nat.lt_irrefl _ (sound.held _ (List.mem_of_getElem? leads))

theorem Sound.make (sound : Sound ops s) :
    Sound (ops ++ [.make]) ⟨s.trails ++ [.empty], s.handles ++ [s.trails.length]⟩ where
  used i c hc := by
    have old := sound.used i c (by simpa using hc)
    rw [List.length_append]
    omega
  held k hk := by
    rw [List.length_append, List.length_singleton]
    rcases List.mem_append.mp hk with old | new
    · have := sound.held k old
      omega
    · rw [List.mem_singleton] at new
      omega
  kept k t ht := by
    rw [heard_append, heard_grown sound.used]
    by_cases old : k < s.trails.length
    · rw [List.getElem?_append_left old] at ht
      rw [sound.kept k t ht]
      exact congrArg _ (List.append_nil _).symm
    · -- the new trail is empty, and nothing was called on it
      obtain rfl : k = s.trails.length := by
        have := (List.getElem?_eq_some_iff.mp ht).1
        simp only [List.length_append, List.length_singleton] at this
        omega
      rw [List.getElem?_concat_length, Option.some.injEq] at ht
      rw [heard_absent sound, ← ht]
      rfl

theorem Sound.copy {i : Nat} (sound : Sound ops s) (leads : s.handles[i]? = some k) :
    Sound (ops ++ [.copy i]) ⟨s.trails, s.handles ++ [k]⟩ where
  used j c hc := by
    have old := sound.used j c (by simpa using hc)
    rw [List.length_append]
    omega
  held k' hk := by
    rcases List.mem_append.mp hk with old | new
    · exact sound.held k' old
    · rw [List.mem_singleton.mp new]
      exact sound.held _ (List.mem_of_getElem? leads)
  kept k' t ht := by
    rw [heard_append, heard_grown sound.used, sound.kept k' t ht]
    exact congrArg _ (List.append_nil _).symm

theorem Sound.call {i : Nat} (sound : Sound ops s) (leads : s.handles[i]? = some k)
    (c : TrailCall) : Sound (ops ++ [.call i c]) ⟨s.trails.modify k (·.apply c), s.handles⟩ where
  used j d hd := by
    rcases List.mem_append.mp hd with old | new
    · exact sound.used j d old
    · cases List.mem_singleton.mp new
      exact (List.getElem?_eq_some_iff.mp leads).1
  held k' hk := by
    rw [List.length_modify]
    exact sound.held k' hk
  kept k' t ht := by
    rw [heard_append]
    rw [List.getElem?_modify] at ht
    obtain ⟨t0, found, rfl⟩ := Option.map_eq_some_iff.mp ht
    have before := sound.kept k' t0 found
    by_cases same : k = k'
    · subst same
      have told : heard ⟨s.trails.modify k (·.apply c), s.handles⟩ k [.call i c] = [c] := by
        simp [heard, call?, leads]
      rw [if_pos rfl, told, Trail.after_append, before]
      rfl
    · have untold : heard ⟨s.trails.modify k (·.apply c), s.handles⟩ k' [.call i c] = [] := by
        simp [heard, call?, leads, same]
      rw [if_neg same, untold, List.append_nil]
      exact before

theorem Sound.step (sound : Sound ops s) (h : Step s op s') : Sound (ops ++ [op]) s' := by
  cases h with
  | make => exact sound.make
  | copy leads => exact sound.copy leads
  | call leads c => exact sound.call leads c

theorem Run.sound (run : Run none ops s) : Sound ops s := by
  induction run with
  | here => exact ⟨nofun, nofun, nofun⟩
  | step _ h ih => exact ih.step h

/-- A handle leads to one trail for good. -/
theorem Run.handles_prefix (run : Run s ops s') : s.handles <+: s'.handles := by
  induction run with
  | here => exact List.prefix_refl _
  | step _ h ih =>
    cases h with
    | make => exact ih.trans (List.prefix_append _ _)
    | copy _ => exact ih.trans (List.prefix_append _ _)
    | call _ _ => exact ih

theorem Run.leads (run : Run s ops s') {i : Nat} (leads : s.handles[i]? = some k) :
    s'.handles[i]? = some k := by
  obtain ⟨more, grown⟩ := run.handles_prefix
  rw [← grown, List.getElem?_append_left (List.getElem?_eq_some_iff.mp leads).1]
  exact leads

/-- **The trail behind a handle obeys the law of all calls on it**, through that handle and through
all others of the same trail. -/
theorem Run.lawful (run : Run none ops s) {i : Nat} (leads : s.handles[i]? = some k) :
    ∃ t, s.trails[k]? = some t ∧ Trail.Law (s.heard k ops) t := by
  have sound := run.sound
  have there := sound.held k (List.mem_of_getElem? leads)
  have found : s.trails[k]? = some s.trails[k] := List.getElem?_eq_getElem there
  refine ⟨_, found, ?_⟩
  rw [sound.kept k _ found]
  exact Trail.law _

/-- Later calls come behind those that were made before. -/
theorem Run.heard_later (run : Run none ops s) {later : List SinkOp} (run' : Run s later s') :
    s'.heard k (ops ++ later) = s.heard k ops ++ s'.heard k later := by
  obtain ⟨more, grown⟩ := run'.handles_prefix
  have before : heard ⟨s'.trails, s.handles ++ more⟩ k ops = s.heard k ops :=
    heard_grown run.sound.used more
  rw [grown] at before
  rw [heard_append, ← before]

end

end Sinks

/-! ### While the station runs -/

/-- Something that happens around a trail while the station runs. -/
inductive Happening where
  /-- An event of a call of the station. -/
  | event (e : Event)
  /-- A call from elsewhere: a loader prints, or an owner of the trail adds to it or clears it. -/
  | other (call : TrailCall)

namespace Happening

/-- The event of the station, if it is one. -/
def event? : Happening → Option Event
  | .event e => some e
  | .other _ => none

/-- The calls on the trail. -/
def calls : Happening → List TrailCall
  | .event e =>
    ((e.performed.bind StationOp.entry?).map fun entry => .append entry.1 entry.2).toList
  | .other call => [call]

/-- **The station never clears the trail**, whatever it does. -/
theorem event_adds (e : Event) : ∀ c ∈ (event e).calls, ∃ variant message,
    c = .append variant message := by
  intro c hc
  obtain ⟨entry, _, rfl⟩ := Option.map_eq_some_iff.mp (Option.mem_toList.mp hc)
  exact ⟨entry.1, entry.2, rfl⟩

/-- The trail is cleared from elsewhere or not at all. -/
theorem clears (h : Happening) (clears : .clear ∈ h.calls) : h = .other .clear := by
  cases h with
  | event e =>
    obtain ⟨_, _, adds⟩ := event_adds e _ clears
    cases adds
  | other call => rw [List.mem_singleton.mp clears]

end Happening

/-- A trail after some happenings. -/
def Trail.during (t : Trail) (story : List Happening) : Trail :=
  t.after (story.flatMap Happening.calls)

theorem Trail.during_append (t : Trail) (story later : List Happening) :
    t.during (story ++ later) = (t.during story).during later := by
  unfold Trail.during
  rw [List.flatMap_append, Trail.after_append]

/-- **What is in the trail stays there as long as nobody else clears it**, and what is told comes
behind it. -/
theorem Trail.during_prefix (t : Trail) (early : List Happening) {later : List Happening}
    (kept : .other .clear ∉ later) :
    (t.during early).entries <+: (t.during (early ++ later)).entries := by
  have uncleared : .clear ∉ later.flatMap Happening.calls := by
    intro found
    obtain ⟨h, hh, clears⟩ := List.mem_flatMap.mp found
    exact kept (h.clears clears ▸ hh)
  rw [Trail.during_append]
  show _ <+: ((t.during early).after (later.flatMap Happening.calls)).entries
  rw [Trail.after_entries uncleared]
  exact List.prefix_append _ _

namespace Traffic

variable {config : Config}

/-- The station and its trail over a time: calls of the station are made and go on, and others call
the trail meanwhile, at any moment between two events. -/
inductive Chronicle (config : Config) (t : Traffic) (trail : Trail) :
    List Happening → Traffic → Trail → Prop where
  | here : Chronicle config t trail [] t trail
  | step {story now : List Happening} {t' t'' : Traffic} {trail' : Trail} {i : Nat}
      (before : Chronicle config t trail story t' trail')
      (h : Step config t' i (now.filterMap Happening.event?) t'') :
      Chronicle config t trail (story ++ now) t'' (trail'.during now)
  | other {story : List Happening} {t' : Traffic} {trail' : Trail}
      (before : Chronicle config t trail story t' trail') (call : TrailCall) :
      Chronicle config t trail (story ++ [.other call]) t' (trail'.apply call)

/-- The trail is what the happenings have made of it. -/
theorem Chronicle.trail_eq {t t' : Traffic} {trail trail' : Trail} {story : List Happening}
    (h : Chronicle config t trail story t' trail') : trail' = trail.during story := by
  induction h with
  | here => rfl
  | step _ _ ih => rw [ih, Trail.during_append]
  | other _ call ih =>
    rw [ih, Trail.during_append]
    rfl

/-- Every run of the station has such a chronicle, in which nobody else calls. -/
theorem Run.chronicle {t t' : Traffic} {log : List Deed} (run : Run config t log t')
    (trail : Trail) : Chronicle config t trail ((log.flatMap (·.events)).map .event) t'
      (trail.during ((log.flatMap (·.events)).map .event)) := by
  induction run with
  | here => exact .here
  | @step log _ _ i es _ h ih =>
    have own : (es.map Happening.event).filterMap Happening.event? = es := by
      rw [List.filterMap_map]
      exact List.filterMap_some
    rw [List.flatMap_append, List.map_append, Trail.during_append, List.flatMap_singleton]
    exact .step ih (i := i) (own.symm ▸ h)

end Traffic

/-- **The law of the trail.** Behind every handle is a trail whose entries are what was added since
it was last cleared, through this handle and all others of the trail, in the order of the calls;
each is numbered by how much was ever added before it, so that numbers rise and entries of different
moments with one number are one entry. A terminal adds traces and removes nothing: lines as they
are, fragments without the blanks at their end or not at all, and one line for a wish to wipe the
screen. While the station runs, whatever others do meanwhile, and on the bench, whatever is hooked
in, the trail at one time is the beginning of the trail at a later time unless somebody has cleared
it in between. -/
theorem trail_law :
    (∀ ops s, Sinks.none.Run ops s → ∀ i k : Nat, s.handles[i]? = some k →
      ∃ t, s.trails[k]? = some t ∧ Trail.Law (s.heard k ops) t ∧
        ∀ later s', s.Run later s' → s'.handles[i]? = some k ∧ ∃ t', s'.trails[k]? = some t' ∧
          Trail.Law (s.heard k ops ++ s'.heard k later) t' ∧
          ∀ e ∈ t.entries, ∀ e' ∈ t'.entries, e.id = e'.id → e = e') ∧
    (∀ (t : Trail) (call : TerminalCall), ∃ lines, call.Prints lines ∧
      (t.apply (.terminal call)).entries =
        t.entries ++ Trail.numbered t.next (lines.map fun line => (.trace, line))) ∧
    (∀ config t trail story t' trail', Traffic.Chronicle config t trail story t' trail' →
      trail' = trail.during story ∧ ∀ early later, early ++ later <+: story →
        .other .clear ∉ later →
          (trail.during early).entries <+: (trail.during (early ++ later)).entries) ∧
    ∀ (depth : Nat) (early later : List Bench.Step) (w : Bench.World), .clearLog ∉ later →
      (∀ r ∈ Bench.runAll (Bench.serve depth) later (w.after (Bench.serve depth) early),
        .begins Bench.Step.clearLog.word ∉ r.events) →
          (w.after (Bench.serve depth) early).trail.entries <+:
            (w.after (Bench.serve depth) (early ++ later)).trail.entries := by
  refine ⟨fun ops s run i k leads => ?_, fun t call => ?_, ?_, ?_⟩
  · obtain ⟨t, found, lawful⟩ := run.lawful leads
    refine ⟨t, found, lawful, fun later s' run' => ⟨run'.leads leads, ?_⟩⟩
    obtain ⟨t', found', lawful'⟩ := (run.trans run').lawful (run'.leads leads)
    rw [run.heard_later run'] at lawful'
    exact ⟨t', found', lawful', fun e he e' he' same => lawful.ids_not_reused lawful' he he' same⟩
  · exact ⟨call.traces, (call.prints_iff _).mpr rfl, Trail.apply_entries (c := .terminal call) nofun⟩
  · intro config t trail story t' trail' chronicle
    exact ⟨chronicle.trail_eq, fun early later _ kept => trail.during_prefix early kept⟩
  · intro depth early later w unclear unseen
    rw [Bench.World.after_append]
    exact Bench.script_keeps unclear unseen

/-- A bench with one port and a loader that prints while it shakes hands. An entry is added from
elsewhere when a port is asked for. -/
def Bench.World.talkative : World where
  config := .default
  desk := .new
  trail := .empty
  events := []
  supported := true
  ports := [("board", .bare "board")]
  streams := []
  known := []
  responses := [.grant "board"]
  loader := { LoaderScript.default with terminal := [.clean, .write " ", .writeLine "boot"] }
  files := []
  portPlans := []
  loaderPlans := []
  hooks := [(.requestPort, [some [.log .info "meanwhile"]])]
  base := none
  disk := ⟨"/", []⟩
  tickets := 0
  ms := 0

/-- No step that clears the trail begins while this bench's station connects. -/
theorem Bench.talkative_unseen :
    ∀ r ∈ runAll (serve 1) [.connect none] .talkative, .begins Step.clearLog.word ∉ r.events := by
  have quiet : ((runAll (serve 1) [.connect none] .talkative).all fun r => r.events.all fun
      | .begins word => word != Step.clearLog.word
      | _ => true) = true := by decide +kernel
  intro r hr found
  have clear := List.all_eq_true.mp (List.all_eq_true.mp quiet r hr) _ found
  simp at clear

/-- A trail that is cleared through a copy of its handle, a connect after which a loader wishes to
wipe the screen, and a connect on the bench in which it does. -/
theorem wishes_keep_trail :
    let ops : List SinkOp := [.make, .copy 0, .call 0 (.append .info "one"), .call 1 .clear,
      .call 1 (.terminal (.write "two \n"))]
    let s : Sinks := ⟨[⟨[⟨1, .trace, "two"⟩], 2⟩], [0, 0]⟩
    (Sinks.none.Run ops s ∧ ∃ t, s.trails[0]? = some t ∧ Trail.Law (s.heard 0 ops) t) ∧
      (∃ early t' trail',
        Traffic.Chronicle .default .new .empty (early ++ [.other (.terminal .clean)]) t' trail' ∧
          (Trail.empty.during early).entries <+:
            (Trail.empty.during (early ++ [.other (.terminal .clean)])).entries) ∧
      Bench.World.talkative.trail.entries <+:
        (Bench.World.talkative.after (Bench.serve 1) [.connect none]).trail.entries := by
  intro ops s
  have run : Sinks.none.Run ops s := by
    have made := (Sinks.Run.here (s := .none)).step .make
    have copied := made.step (.copy (i := 0) rfl)
    have added := copied.step (.call (i := 0) rfl (.append .info "one"))
    have cleared := added.step (.call (i := 1) rfl .clear)
    have printed := cleared.step (.call (i := 1) rfl (.terminal (.write "two \n")))
    exact (show _ = s by rfl) ▸ printed
  obtain ⟨log, connected⟩ := Traffic.Reach.joined
  have chronicle := (connected.chronicle .empty).other (.terminal .clean)
  obtain ⟨handles, -, station, bench⟩ := trail_law
  refine ⟨⟨run, ?_⟩, ⟨_, _, _, chronicle, ?_⟩, ?_⟩
  · obtain ⟨t, found, lawful, -⟩ := handles ops s run 0 0 rfl
    exact ⟨t, found, lawful⟩
  · exact (station _ _ _ _ _ _ chronicle).2 _ _ (List.prefix_refl _) (by simp)
  · have kept := bench 1 [] [.connect none] .talkative (by simp)
    rw [List.nil_append, Bench.World.after_nil] at kept
    exact kept Bench.talkative_unseen

end FlashStation
