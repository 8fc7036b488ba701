/-
# Faults name the place that was tried

Where a path leads is worked out twice, once for messages and once to get the bytes, and both come
to the same place. So a fault of getting the bytes names what is told of the path, whatever the
files and the servers answer; and nothing else is looked at: of files only the one of that name, and
none for an address of the web. A catalog that could not be loaded says where its manifest should
be.

Key definitions: `Base.retrieve`, `FetchFault.place?`, `Base.Consulted`, `Names`.
Key theorems: `Base.fetch_eq`, `Base.retrieve_names`, `Base.retrieve_consults`,
`FetchFault.message_names`, `faults_name_place`.
-/
import FlashStation.Proofs.Endings
import FlashStation.Proofs.Locations
import FlashStation.Proofs.Talk
import FlashStation.Place.Web

namespace FlashStation

open Program

/-! ### Getting the bytes, whatever is answered -/

/-- Ways to get bytes from where a path leads to. -/
inductive SourceOp where
  /-- Read the file of this name. -/
  | read (file : String)
  /-- Ask a server for a resource. -/
  | ask (url : Url)

/-- The answers; a server may give none. -/
@[reducible] def SourceOp.Answer : SourceOp → Type
  | .read _ => Except ReadFault (List UInt8)
  | .ask _ => Option Reply

/-- The operations that get bytes from files and servers. -/
@[reducible] def Sources : Signature := ⟨SourceOp, SourceOp.Answer⟩

/-- Answers from a disk and a server. -/
def Disk.serve (disk : Disk) : (op : SourceOp) → Web → op.Answer × Web
  | .read file, web => (disk.read file, web)
  | .ask url, web => web.ask url

namespace Base

/-- Gets the bytes that a path leads to. -/
def retrieve (base : Base) (stamp path : String) :
    Program Sources (Except FetchFault (List UInt8)) :=
  match base.find path with
  | .error fault => .done (.error fault)
  | .ok (.file file) =>
    (Program.perform (S := Sources) (.read file)).bind fun bytes => .done (bytes.mapError (.io file))
  | .ok (.resource url) =>
    (Program.perform (S := Sources) (.ask (url.addParameter "cache-bust" stamp))).bind fun reply =>
      .done (Reply.bytes (base.locate path) reply)

/-- Fetching gets the bytes from a disk and a server. -/
theorem fetch_eq (base : Base) (stamp : String) (disk : Disk) (web : Web) (path : String) :
    base.fetch stamp disk web path = (base.retrieve stamp path).run disk.serve web := by
  unfold fetch retrieve
  cases base.find path with
  | error fault => rfl
  | ok target => cases target <;> rfl

end Base

/-! ### The place that a fault names -/

/-- The place that a fault names, if it is about a place. -/
def FetchFault.place? : FetchFault → Option String
  | .status location _ | .http location | .io location _ | .invalidLocation location _ =>
    some location
  | .manifest _ => none

/-- A text has a place in it. -/
def Names (text place : String) : Prop :=
  ∃ before after, text = before ++ place ++ after

theorem Names.append {text place : String} (h : Names text place) (more : String) :
    Names (text ++ more) place := by
  obtain ⟨before, after, rfl⟩ := h
  exact ⟨before, after ++ more, String.append_assoc⟩

theorem Names.behind {text place : String} (h : Names text place) (start : String) :
    Names (start ++ text) place := by
  obtain ⟨before, after, rfl⟩ := h
  refine ⟨start ++ before, after, ?_⟩
  simp only [String.append_assoc]

theorem names_last (start place : String) : Names (start ++ place) place :=
  ⟨start, "", (String.append_empty).symm⟩

/-- The text of a fault names its place. -/
theorem FetchFault.message_names {fault : FetchFault} {place : String}
    (h : fault.place? = some place) : Names fault.message place := by
  cases fault with
  | status location code =>
    cases h
    exact (((names_last "Failed to fetch " place).append " (HTTP ").append _).append ")"
  | http location =>
    cases h
    exact ((names_last "Failed to fetch " place).append ": ").append _
  | io location fault =>
    cases h
    exact ((names_last "Failed to read " place).append ": ").append _
  | invalidLocation location reason =>
    cases h
    exact ((names_last "Invalid location '" place).append "': ").append _
  | manifest fault => cases h

/-- What a server answers, or that it gives no answer, is told of the place it was asked for. -/
theorem Reply.bytes_names {location : String} {reply : Option Reply} {fault : FetchFault}
    (h : Reply.bytes location reply = .error fault) : fault.place? = some location := by
  unfold Reply.bytes at h
  split at h
  · cases h
    rfl
  · split_ifs at h
    cases h
    rfl

namespace Base

/-- A path that makes no sense is told of as it is written. -/
theorem locate_fault {base : Base} {path : String} {fault : FetchFault}
    (h : base.find path = .error fault) : fault.place? = some (base.locate path) := by
  cases base with
  | directory root =>
    rw [find] at h
    split_ifs at h with remote
    cases h
    exact congrArg some (if_pos remote).symm
  | server root =>
    rw [find] at h
    cases found : resource root path with
    | ok url => simp [found, Except.map] at h
    | error fault' =>
      rw [locate_error found]
      rw [found] at h
      cases h
      unfold resource at found
      split at found
      · cases found
      · cases found
        rfl

/-- A file is told of by its name. -/
theorem locate_file {base : Base} {path file : String} (h : base.find path = .ok (.file file)) :
    base.locate path = file := by
  cases base with
  | directory root =>
    rw [find] at h
    split_ifs at h with remote
    cases h
    exact if_neg remote
  | server root =>
    rw [find] at h
    cases found : resource root path <;> simp [found, Except.map] at h

end Base

/-! ### What is asked for -/

/-- What is consulted for a path: in a directory the file of that name alone, and nothing at all for
an address of the web; on a server the resource that the path means, and no file. -/
def Base.Consulted (base : Base) (path : String) (asked : List SourceOp) : Prop :=
  match base with
  | .directory root => asked = if isRemote path then [] else [.read (joinPath root path)]
  | .server _ => ∀ op ∈ asked, ∃ url, op = .ask url

section
variable {base : Base} {stamp path : String} {talk : List (Exchange Sources)}
  {result : Except FetchFault (List UInt8)}

/-- **A fault of getting the bytes names what is told of the path.** -/
theorem Base.retrieve_names {fault : FetchFault}
    (h : (base.retrieve stamp path).Yields talk (.error fault)) :
    fault.place? = some (base.locate path) := by
  unfold Base.retrieve at h
  split at h
  · rename_i fault' found
    cases (Yields.done_inv h).2
    exact Base.locate_fault found
  · rename_i file found
    obtain ⟨bytes, -, same⟩ := Yields.map_inv h
    cases bytes with
    | ok bytes => cases same
    | error fault' =>
      cases same
      exact congrArg some (Base.locate_file found).symm
  · obtain ⟨reply, -, same⟩ := Yields.map_inv h
    exact Reply.bytes_names same.symm

/-- **Nothing else is consulted** to get the bytes. -/
theorem Base.retrieve_consults (h : (base.retrieve stamp path).Yields talk result) :
    base.Consulted path (talk.map (·.op)) := by
  cases base with
  | directory root =>
    rw [Base.retrieve, Base.find] at h
    show talk.map (·.op) = _
    split_ifs at h ⊢ with remote
    · rw [(Yields.done_inv h).1]
      rfl
    · obtain ⟨_, rest, rfl, ended⟩ := Yields.call_inv _ h
      rw [(Yields.done_inv ended).1]
      rfl
  | server root =>
    rw [Base.retrieve, Base.find] at h
    cases found : Base.resource root path with
    | error fault =>
      simp only [found, Except.map] at h
      rw [(Yields.done_inv h).1]
      exact List.forall_mem_nil _
    | ok url =>
      simp only [found, Except.map] at h
      obtain ⟨_, rest, rfl, ended⟩ := Yields.call_inv _ h
      rw [(Yields.done_inv ended).1]
      exact List.forall_mem_singleton.mpr ⟨_, rfl⟩

end

/-! ### The warning of a catalog -/

/-- Every warning names the place of the manifest, if the fault is about no other. -/
theorem FetchFault.warning_names {fault : FetchFault} {place : String}
    (h : ∀ tried ∈ fault.place?, tried = place) : Names (fault.warning place) place := by
  unfold FetchFault.warning
  split_ifs with absent
  · exact (names_last _ place).append "."
  · split
    · exact ((((names_last _ place).append _).append _).append _).append _
    · rename_i other
      have named : fault.place? = some place := by
        cases fault with
        | manifest fault => exact absurd rfl (other fault)
        | status tried _ | http tried | io tried _ | invalidLocation tried _ =>
          exact congrArg some (h tried rfl)
      exact (((FetchFault.message_names named).behind _).append _).append _

/-- What was fetched and is no manifest is refused as such. -/
theorem Manifest.read_error {document : List UInt8} {fault : FetchFault}
    (h : Manifest.read document = .error fault) : ∃ invalid, fault = .manifest invalid := by
  rw [Manifest.read] at h
  cases read : Json.document Manifest.reader document with
  | ok m =>
    rw [read] at h
    cases h
  | error invalid =>
    rw [read] at h
    cases h
    exact ⟨invalid, rfl⟩

/-- **A fault names the place that was tried.** Fetching a path below a base gets the bytes from one
disk and one server; and whatever a disk and a server answer, a fault of that names exactly what is
told of the path, and nothing but the place of the path is consulted: in a directory the file of the
joined name alone, and none for an address of the web. A catalog that could not be loaded tells
where its manifest should be, if there was none or it could not be read, and for all other faults
that come from fetching it below that base. -/
theorem faults_name_place (base : Base) :
    (∀ stamp (disk : Disk) web path, base.fetch stamp disk web path =
      (base.retrieve stamp path).run disk.serve web) ∧
    (∀ stamp path talk result, (base.retrieve stamp path).Yields talk result →
      (∀ fault, result = .error fault → fault.place? = some (base.locate path)) ∧
      base.Consulted path (talk.map (·.op))) ∧
    ∀ {σ : Type} (shell : (op : ShellOp) → σ → op.Answer × σ) (s : σ) fault,
      Shell.manifest shell base s = .error fault →
      ∃ warning, ((Shell.below base Catalog.load).run shell s).1 = ⟨none, some warning⟩ ∧
        ((∃ place, fault = .status place 404 ∨ ∃ told, fault = .io place (.notFound told)) →
          warning = "Firmware manifest was not found. Prebuilt options will be hidden until " ++
            "you add " ++ base.locate manifestPath ++ ".") ∧
        ((∃ invalid, fault = .manifest invalid) →
          warning = "Firmware manifest at " ++ base.locate manifestPath ++ " is invalid (" ++
            Json.Fault.mark ++ "). Prebuilt options will be hidden until it is fixed.") ∧
        (∀ stamp talk, (base.retrieve stamp manifestPath).Yields talk
            (shell (.fetch base manifestPath) s).1 →
          Names warning (base.locate manifestPath)) := by
  refine ⟨base.fetch_eq, fun stamp path talk result h => ⟨?_, Base.retrieve_consults h⟩, ?_⟩
  · rintro fault rfl
    exact Base.retrieve_names h
  intro σ shell s fault none
  refine ⟨_, catalogLoad_error none, ?_, ?_, fun stamp talk fetched => ?_⟩
  · rintro ⟨place, rfl | ⟨told, rfl⟩⟩
    · rfl
    · rfl
  · rintro ⟨invalid, rfl⟩
    have ending : "). Prebuilt options will be hidden until it is fixed." =
        "). " ++ "Prebuilt options will be hidden until it is fixed." := by decide
    rw [ending, ← String.append_assoc]
    rfl
  · refine FetchFault.warning_names fun tried tells => ?_
    rw [Shell.manifest] at none
    cases got : (shell (.fetch base manifestPath) s).1 with
    | error fault' =>
      rw [got] at none fetched
      cases none
      exact Option.some.inj (tells.symm.trans (Base.retrieve_names fetched))
    | ok bytes =>
      rw [got] at none
      obtain ⟨invalid, rfl⟩ := Manifest.read_error none
      cases tells

/-- A machine without files and without a server. -/
def nothingThere : (op : ShellOp) → Unit → op.Answer × Unit
  | .fetch base path, s => ((base.fetch "0" (.empty "/work") .unreachable path).1, s)
  | op, s => boardAndChip op s

/-- Without files, it is told where the manifest is to be added. -/
theorem missing_manifest_told :
    let base : Base := .directory "public"
    let missing : FetchFault := .io "public/firmware/manifest.json" PathFault.absent.reading
    Shell.manifest nothingThere base () = .error missing ∧
    missing.place? = some (base.locate manifestPath) ∧
    ((Shell.below base Catalog.load).run nothingThere ()).1.warning =
      some ("Firmware manifest was not found. Prebuilt options will be hidden until you add " ++
        "public/firmware/manifest.json.") := by
  intro base missing
  have none : Shell.manifest nothingThere base () = .error missing := by decide +kernel
  obtain ⟨fetches, names, catalog⟩ := faults_name_place base
  have asked := yields_run (Disk.empty "/work").serve (base.retrieve "0" manifestPath) .unreachable
  have failed : ((base.retrieve "0" manifestPath).run (Disk.empty "/work").serve .unreachable).1 =
      .error missing := by
    rw [← fetches]
    decide +kernel
  have place := (names _ _ _ _ asked).1 missing failed
  obtain ⟨warning, loaded, told, -⟩ := catalog nothingThere () missing none
  refine ⟨none, place, ?_⟩
  rw [loaded]
  exact congrArg some ((told ⟨_, .inr ⟨_, rfl⟩⟩).trans (by decide))

end FlashStation
