/-
# What a connect does not mind

A connect asks many things on its way, and minds only two answers: whether a port was chosen, and
whether the board shakes hands. So two connects that got the same two answers come to the same,
whatever else they were answered, in whatever run. All else is left out of what is told of the
board if it was not had.

Key definitions: `picks`, `handshakes`, `IsIdText`, `Describes`, `Leaves`, `Traffic.Concluded`.
Key theorems: `flashIdText_isIdText`, `Approaches.verdict`, `Approaches.leaves`,
`connect_tolerates`.
-/
import FlashStation.Proofs.Approach
import FlashStation.Proofs.Printing

namespace FlashStation

open Station Program

/-! ### The text of an identifier -/

/-- The digits of hexadecimal numbers, with small letters. -/
def smallHexDigits : List Char :=
  ['0', '1', '2', '3', '4', '5', '6', '7', '8', '9', 'a', 'b', 'c', 'd', 'e', 'f']

/-- A text that writes an identifier in hexadecimal, with small letters and six digits or more. -/
def IsIdText (id : UInt32) (text : String) : Prop :=
  ∃ digits, text = String.ofList ('0' :: 'x' :: digits) ∧ 6 ≤ digits.length ∧
    (∀ c ∈ digits, c ∈ smallHexDigits) ∧ Text.readDigits 16 UInt32.size 0 digits = .ok id.toNat

theorem digitChar_mem_smallHexDigits {n : Nat} (h : n < 16) :
    Nat.digitChar n ∈ smallHexDigits := by
  have all : ∀ n : Fin 16, Nat.digitChar n.val ∈ smallHexDigits := by decide
  exact all ⟨n, h⟩

/-- **The text of an identifier is what it says.** -/
theorem flashIdText_isIdText (id : UInt32) : IsIdText id (flashIdText id) := by
  have pos : 0 < UInt32.size := by decide
  have small : id.toNat < UInt32.size := id.toNat_lt_size
  have written : Text.Writes 16 (Text.padZeros 6 (Nat.toDigits 16 id.toNat)) id.toNat :=
    (Text.writes_toDigits (by decide) _).zeros (by decide) _
  refine ⟨Text.padZeros 6 (Nat.toDigits 16 id.toNat), ?_, ?_, ?_, ?_⟩
  · rw [flashIdText, Text.hexLower, ← String.toList_inj]
    simp
  · rw [Text.padZeros, List.length_append, List.length_replicate]
    omega
  · obtain ⟨values, digits, below, -⟩ := Text.toDigits_eq (show 1 < 16 by decide) id.toNat
    refine List.forall_mem_append.mpr ⟨fun c hc => ?_, fun c hc => ?_⟩
    · rw [(List.mem_replicate.mp hc).2]
      decide
    · rw [digits] at hc
      obtain ⟨v, hv, rfl⟩ := List.mem_map.mp hc
      exact digitChar_mem_smallHexDigits (below v hv)
  · rw [Text.readDigits_ok_iff (by decide) _ pos]
    exact ⟨id.toNat, written, by simp, small⟩

/-! ### The two answers that matter -/

namespace Exchange

/-- What a request for a port was answered. -/
def pick? : Exchange Station → Option (Except SelectFault Port)
  | ⟨.requestPort _, chosen⟩ => some chosen
  | _ => none

/-- What came of a handshake. -/
def shake? : Exchange Station → Option (Except ProtocolFault Unit)
  | ⟨.handshake _, shaken⟩ => some shaken
  | _ => none

/-- An exchange that is neither about a request for a port nor about a handshake. -/
def Beside (e : Exchange Station) : Prop := e.pick? = none ∧ e.shake? = none

end Exchange

/-- What requests for a port were answered, in turn. -/
def picks (calls : List (Exchange Station)) : List (Except SelectFault Port) :=
  calls.filterMap Exchange.pick?

/-- What came of handshakes, in turn. -/
def handshakes (calls : List (Exchange Station)) : List (Except ProtocolFault Unit) :=
  calls.filterMap Exchange.shake?

/-- What a connect comes to, by the last answer to its requests for a port and by what came of
handshakes. -/
inductive Verdict : Option (Except SelectFault Port) → List (Except ProtocolFault Unit) →
    Except ConnectFault Unit → Prop where
  | nobody (fault : SelectFault) : Verdict (some (.error fault)) [] (.error (.ofSelect fault))
  | stranger (port : Port) (fault : ProtocolFault) :
      Verdict (some (.ok port)) [.error fault] (.error (.handshake fault))
  | board (port : Port) : Verdict (some (.ok port)) [.ok ()] (.ok ())

namespace Verdict

variable {chosen : Option (Except SelectFault Port)} {shaken : List (Except ProtocolFault Unit)}
  {r r' : Except ConnectFault Unit}

theorem unique (h : Verdict chosen shaken r) (h' : Verdict chosen shaken r') : r = r' := by
  cases h <;> cases h' <;> rfl

theorem ok_iff (h : Verdict chosen shaken r) :
    r = .ok () ↔ (∃ port, chosen = some (.ok port)) ∧ shaken = [.ok ()] := by
  cases h <;> simp

theorem error_iff (h : Verdict chosen shaken r) (fault : ConnectFault) :
    r = .error fault ↔ (∃ e, chosen = some (.error e) ∧ fault = .ofSelect e) ∨
      ∃ e, shaken = [.error e] ∧ fault = .handshake e := by
  cases h <;> simp [eq_comm]

end Verdict

section
variable {config : Config} {calls calls' : List (Exchange Station)}

@[simp] theorem picks_append : picks (calls ++ calls') = picks calls ++ picks calls' :=
  List.filterMap_append

@[simp] theorem handshakes_append :
    handshakes (calls ++ calls') = handshakes calls ++ handshakes calls' :=
  List.filterMap_append

/-- Exchanges that are beside both matters. -/
theorem beside (h : ∀ e ∈ calls, e.Beside) : picks calls = [] ∧ handshakes calls = [] :=
  ⟨List.filterMap_eq_nil_iff.mpr fun e he => (h e he).1,
    List.filterMap_eq_nil_iff.mpr fun e he => (h e he).2⟩

theorem Exchange.Beside.of_link {e : Exchange Station} {op : LinkOp} (h : e.op = .link op) :
    e.Beside := by
  obtain ⟨op', answer⟩ := e
  obtain rfl : op' = .link op := h
  exact ⟨rfl, rfl⟩

theorem Reclaims.beside {port : Port} (h : Reclaims config port calls) : ∀ e ∈ calls, e.Beside := by
  intro e he
  obtain ⟨op, link, _⟩ := h.looks.2 e he
  exact .of_link link

theorem Census.beside (h : Census calls) : ∀ e ∈ calls, e.Beside := by
  cases h with
  | fails fault => exact List.forall_mem_singleton.mpr ⟨rfl, rfl⟩
  | looks h =>
    refine List.forall_mem_cons.mpr ⟨⟨rfl, rfl⟩, ?_⟩
    induction h with
    | nil => exact List.forall_mem_nil _
    | cons look _ ih =>
      obtain ⟨seen, rfl⟩ := look
      exact List.forall_mem_cons.mpr ⟨⟨rfl, rfl⟩, ih⟩

theorem CleansUp.beside {previous : Option Session} (h : CleansUp config previous calls) :
    ∀ e ∈ calls, e.Beside := by
  cases h with
  | nothing => exact List.forall_mem_nil _
  | releases h =>
    refine List.forall_mem_cons.mpr ⟨⟨rfl, rfl⟩, List.forall_mem_append.mpr ⟨h.beside, ?_⟩⟩
    exact List.forall_mem_singleton.mpr ⟨rfl, rfl⟩

theorem Sweeps.beside (h : Sweeps config calls) : ∀ e ∈ calls, e.Beside := by
  cases h with
  | fails fault => exact List.forall_mem_singleton.mpr ⟨rfl, rfl⟩
  | sweeps h =>
    refine List.forall_mem_cons.mpr ⟨⟨rfl, rfl⟩, ?_⟩
    induction h with
    | nil => exact List.forall_mem_nil _
    | cons reclaims _ ih => exact List.forall_mem_append.mpr ⟨reclaims.beside, ih⟩

/-- The last answer is what is chosen. -/
theorem Chooses.answers {chosen : Except SelectFault Port} (h : Chooses config calls chosen) :
    (picks calls).getLast? = some chosen ∧ handshakes calls = [] := by
  cases h <;> exact ⟨rfl, rfl⟩

theorem Boards.beside {baud : UInt32} {chosen : Except SelectFault Port}
    {made : Except SelectFault Loader} (h : Boards config baud chosen calls made) :
    ∀ e ∈ calls, e.Beside := by
  cases h with
  | nobody => exact List.forall_mem_nil _
  | boards seen h =>
    refine List.forall_mem_cons.mpr ⟨⟨rfl, rfl⟩, List.forall_mem_append.mpr ⟨h.beside, ?_⟩⟩
    exact List.forall_mem_singleton.mpr ⟨rfl, rfl⟩

/-- Of an interview, only the handshake matters. -/
theorem Interviews.answers {loader : Loader} {told : Except ProtocolFault DeviceInfo}
    (h : Interviews loader calls told) :
    picks calls = [] ∧ handshakes calls = [told.map fun _ => ()] := by
  cases h <;> exact ⟨rfl, rfl⟩

theorem Meets.verdict {baud : UInt32} {chosen : Except SelectFault Port}
    {made : Except SelectFault Loader} {boarding : List (Exchange Station)}
    {r : Except ConnectFault (Loader × DeviceInfo)} (h : Meets config made calls r)
    (boards : Boards config baud chosen boarding made) :
    picks calls = [] ∧ Verdict (some chosen) (handshakes calls) (r.map fun _ => ()) := by
  cases h with
  | nobody fault =>
    cases boards
    exact ⟨rfl, .nobody fault⟩
  | @stranger loader fault _ _ asks reclaims =>
    cases boards
    have quiet : ∀ e ∈ [(⟨.intoPort loader, loader.port⟩ : Exchange Station)], e.Beside :=
      List.forall_mem_singleton.mpr ⟨rfl, rfl⟩
    obtain ⟨unpicked, unshaken⟩ := beside (List.forall_mem_append.mpr ⟨quiet, reclaims.beside⟩)
    rw [List.singleton_append] at unpicked unshaken
    rw [picks_append, handshakes_append, asks.answers.1, asks.answers.2, unpicked, unshaken]
    exact ⟨rfl, .stranger _ fault⟩
  | board asks =>
    cases boards
    rw [asks.answers.1, asks.answers.2]
    exact ⟨rfl, .board _⟩

/-- **What an attempt comes to is told by two answers.** -/
theorem Approaches.verdict {baud : UInt32} {previous : Option Session}
    {r : Except ConnectFault (Loader × DeviceInfo)} (h : Approaches config baud previous calls r) :
    Verdict (picks calls).getLast? (handshakes calls) (r.map fun _ => ()) := by
  cases h with
  | @parts _ _ _ choosing boarding meeting chosen made _ looks cleans sweeps chooses boards meets =>
    obtain ⟨looks, looks'⟩ := beside looks.beside
    obtain ⟨cleans, cleans'⟩ := beside cleans.beside
    obtain ⟨sweeps, sweeps'⟩ := beside sweeps.beside
    obtain ⟨picked, unshaken⟩ := chooses.answers
    obtain ⟨unpicked, verdict⟩ := meets.verdict boards
    obtain ⟨boards, boards'⟩ := beside boards.beside
    simp only [picks_append, handshakes_append, looks, looks', cleans, cleans', sweeps, sweeps',
      boards, boards', unpicked, unshaken, List.nil_append, List.append_nil, picked]
    exact verdict

/-- How the board was asked about itself, and what was learned. -/
structure Describes (calls : List (Exchange Station)) (loader : Loader) (info : DeviceInfo) : Prop
    where
  /-- What was not had is left out. -/
  asked : ∃ stub id size,
    [⟨.handshake loader, .ok ()⟩, ⟨.runStub loader, stub⟩, ⟨.chipName loader, info.chip⟩,
      ⟨.flashId loader, id⟩, ⟨.flashSize loader, size⟩] <:+ calls ∧
    (∀ n, id = .ok n → ∃ text, info.flashId = some text ∧ IsIdText n text) ∧
    (∀ fault, id = .error fault → info.flashId = none) ∧ info.flashSize = size.toOption
  port : info.port = some loader.port.info

/-- A session is with the loader that a connect has made, at the connect's baud rate, and what is
known of the board is what the connect was told over this loader. -/
structure Leaves (config : Config) (baud : UInt32) (calls : List (Exchange Station))
    (session : Session) (info : DeviceInfo) : Prop where
  rate : session.baud = baud
  loader : session.loader.baud = baud
  attached : ⟨.attach session.loader.port baud config.romBaud, session.loader⟩ ∈ calls
  describes : Describes calls session.loader info

/-- What is known of a board that was met, and of its loader. -/
theorem Approaches.leaves {baud : UInt32} {previous : Option Session} {loader : Loader}
    {info : DeviceInfo} {generation : Nat} {first : Exchange Station}
    (h : Approaches config baud previous calls (.ok (loader, info))) :
    Leaves config baud (first :: calls) ⟨loader, generation, baud⟩ info := by
  cases h with
  | parts looks cleans sweeps chooses boards meets =>
    cases meets with
    | board asks =>
      cases boards with
      | boards seen reclaims hp hb =>
        subst hp
        refine ⟨rfl, hb, by simp, ?_⟩
        cases asks with
        | told stub chip id size =>
          refine ⟨⟨stub, id, size, ?_, ?_, ?_, rfl⟩, rfl⟩
          · simp only [← List.append_assoc]
            exact (List.suffix_append _ _).trans (List.suffix_cons _ _)
          · rintro n rfl
            exact ⟨_, rfl, flashIdText_isIdText n⟩
          · rintro fault rfl
            rfl

end

/-! ### Connects that are over -/

namespace Traffic

/-- A connect that was accepted, is over and is not superseded yet, and what it came to. -/
structure Concluded (config : Config) (log : List Deed) (t : Traffic) (i : Nat)
    (preferred : Option UInt32) (r : Except ConnectFault DeviceInfo) : Prop where
  run : Run config .new log t
  call : ∃ start, t.calls[i]? = some ⟨.connect preferred, start, some t.floor.desk.generation,
    .done (.connected r)⟩

variable {config : Config} {log : List Deed} {t : Traffic} {i : Nat} {preferred : Option UInt32}
  {r : Except ConnectFault DeviceInfo}

/-- What a connect came to, the calls that it made on its way, and the record if it has just
ended. -/
theorem Concluded.approached (h : Concluded config log t i preferred r) :
    let baud := preferred.getD config.defaultBaud
    let d := t.floor.desk
    ∃ calls previous made, outward (dialogue (diary log i)) = ⟨.supported, true⟩ :: calls ∧
      Approaches config baud previous calls made ∧ r = made.map (·.2) ∧
      (log.getLast?.map Deed.caller = some i →
        (∀ loader info, made = .ok (loader, info) → d.phase = .connected ∧ d.info = some info ∧
          d.session = some ⟨loader, d.generation, baud⟩) ∧
        ∀ fault, r = .error fault → d.phase = .idle ∧ d.session = none ∧ d.info = none ∧
          d.lastError = some fault.message) := by
  intro baud d
  obtain ⟨start, hc⟩ := h.call
  obtain ⟨y, r', f, told, same, fresh, counted, bound, last, attempt⟩ :=
    h.run.attempt hc rfl rfl rfl
  cases same
  obtain ⟨made, approaches, outcome, session⟩ := attempt.attempt_approaches fresh
  refine ⟨_, _, made, told, approaches, outcome, fun now => ?_⟩
  obtain rfl := last now
  obtain ⟨_, ⟨since, attempted⟩, _, _⟩ := attempt.attempted counted.symm
  cases attempted with
  | superseded late kept =>
    rw [← kept] at late
    omega
  | failed _ left =>
    refine ⟨fun loader info joined => ?_, ?_⟩
    · rw [joined] at outcome
      cases outcome
    · rintro _ ⟨⟩
      rw [show d = _ from left]
      exact ⟨rfl, rfl, rfl, rfl⟩
  | joined _ _ _ left =>
    refine ⟨fun loader info joined => ?_, nofun⟩
    rw [joined] at outcome
    cases outcome
    have kept := session loader info joined
    refine ⟨?_, ?_, kept⟩ <;> rw [show d = _ from left] <;> rfl

/-- What a connect leaves that has just joined the board. -/
theorem Concluded.leaves {info : DeviceInfo} (h : Concluded config log t i preferred (.ok info))
    (last : log.getLast?.map Deed.caller = some i) :
    t.floor.desk.phase = .connected ∧ t.floor.desk.info = some info ∧
      ∃ session, t.floor.desk.session = some session ∧
        session.generation = t.floor.desk.generation ∧
        Leaves config (preferred.getD config.defaultBaud) (outward (dialogue (diary log i)))
          session info := by
  obtain ⟨calls, _, made, whole, approaches, outcome, left⟩ := h.approached
  rcases made with _ | ⟨loader, told⟩
  · cases outcome
  obtain rfl : info = told := Except.ok.inj outcome
  obtain ⟨phase, known, session⟩ := (left last).1 loader info rfl
  rw [whole]
  exact ⟨phase, known, _, session, rfl, approaches.leaves⟩

/-- A connect that was accepted, is over and is not superseded yet came to something. -/
theorem Run.concludes {c : Call} (run : Run config .new log t) (hc : t.calls[i]? = some c)
    (he : c.errand = .connect preferred) (ht : c.tag = some t.floor.desk.generation)
    (ended : c.pending = false) :
    ∃ r, c.rest = .done (.connected r) ∧ Concluded config log t i preferred r := by
  obtain ⟨errand, start, tag, rest⟩ := c
  cases rest with
  | call op next => cases ended
  | done result =>
    obtain ⟨_, r, _, _, rfl, _⟩ := run.attempt hc he ht rfl
    cases he
    cases ht
    exact ⟨r, rfl, run, start, hc⟩

/-- Where only one call was made, it took the last step. -/
theorem Run.alone (run : Run config .new log t) (one : t.calls.length = 1) :
    log.getLast?.map Deed.caller = some 0 := by
  cases run with
  | here => cases one
  | @step log _ _ j _ run hs =>
    have first : j < 1 := one ▸ hs.caller_lt.2
    rw [List.getLast?_concat, Option.map_some, Nat.lt_one_iff.mp first]

theorem Concluded.verdict (h : Concluded config log t i preferred r) :
    Verdict (picks (outward (dialogue (diary log i)))).getLast?
      (handshakes (outward (dialogue (diary log i)))) (r.map fun _ => ()) := by
  obtain ⟨calls, _, made, whole, approaches, rfl, _⟩ := h.approached
  have verdict := approaches.verdict
  rw [whole]
  cases made <;> exact verdict

end Traffic

open Traffic

/-- **A connect minds two answers only.** Take a connect that was accepted, in any run in which it
is not superseded yet. It can be answered until it is over. Then it has succeeded if and only if the
last request for a port gave one and the board shook hands, and it has failed if and only if one of
the two failed, with that fault; and any other such connect, of whatever station in whatever run,
that got the same two answers comes to the same. What the listing of ports, any reclaim, the upload
of the flasher and the questions for the identifier and the size came to does not matter.

Right after a connect that succeeded, the station is connected, what is known of the board is what
the caller got, and the session is with the one loader that was made, at the caller's baud rate or
the default one, which was the loader's as well. It tells the chip's name as the loader does, the
port of the loader, and the identifier and the size if they were had. Right after one that failed,
the station is idle, there is no session and nothing known of a board, and the text of the last
fault is that of the connect's. -/
theorem connect_tolerates {config : Config} {log : List Deed} {t : Traffic} {i : Nat} {c : Call}
    {preferred : Option UInt32} (run : Run config .new log t) (hc : t.calls[i]? = some c)
    (he : c.errand = .connect preferred) (ht : c.tag = some t.floor.desk.generation) :
    let calls := outward (dialogue (diary log i))
    let baud := preferred.getD config.defaultBaud
    let d := t.floor.desk
    (∃ log' t' r, Run config .new (log ++ log') t' ∧
      t'.calls[i]? = some { c with rest := .done (.connected r) } ∧
      t'.floor.desk.generation = d.generation) ∧
    ∀ r, c.rest = .done (.connected r) →
      ((∃ info, r = .ok info) ↔
        (∃ port, (picks calls).getLast? = some (.ok port)) ∧ handshakes calls = [.ok ()]) ∧
      (∀ fault, r = .error fault ↔
        (∃ e, (picks calls).getLast? = some (.error e) ∧ fault = .ofSelect e) ∨
          ∃ e, handshakes calls = [.error e] ∧ fault = .handshake e) ∧
      (∀ {config' : Config} {log' : List Deed} {t' : Traffic} {i' : Nat}
        {preferred' : Option UInt32} {r' : Except ConnectFault DeviceInfo},
        Concluded config' log' t' i' preferred' r' →
        let calls' := outward (dialogue (diary log' i'))
        (picks calls).getLast? = (picks calls').getLast? → handshakes calls = handshakes calls' →
          r.map (fun _ => ()) = r'.map fun _ => ()) ∧
      (log.getLast?.map Deed.caller = some i →
        (∀ info, r = .ok info → d.phase = .connected ∧ d.info = some info ∧ d.baud = some baud ∧
          ∃ loader, d.session = some ⟨loader, d.generation, baud⟩ ∧ loader.baud = baud ∧
            ⟨.attach loader.port baud config.romBaud, loader⟩ ∈ calls ∧
            Describes calls loader info) ∧
        ∀ fault, r = .error fault → d.phase = .idle ∧ d.session = none ∧ d.info = none ∧
          d.lastError = some fault.message) := by
  intro calls baud d
  obtain ⟨log', t', result, run', hc', same, _⟩ := run.completes hc
  obtain ⟨r', ended', _⟩ := run'.concludes hc' he (by rw [ht, same]) rfl
  cases ended'
  refine ⟨⟨log', t', r', run', hc', same⟩, fun r ended => ?_⟩
  have h : Concluded config log t i preferred r :=
    ⟨run, c.start, by rw [hc, ← he, ← ht, ← ended]⟩
  have verdict := h.verdict
  have succeeds : r.map (fun _ => ()) = .ok () ↔ ∃ info, r = .ok info := by
    cases r <;> simp [Except.map]
  have fails (fault : ConnectFault) : r.map (fun _ => ()) = .error fault ↔ r = .error fault := by
    cases r <;> simp [Except.map]
  refine ⟨succeeds.symm.trans verdict.ok_iff, fun fault =>
    (fails fault).symm.trans (verdict.error_iff fault), fun h' picked shaken => ?_, fun now => ?_⟩
  · have other := h'.verdict
    rw [← picked, ← shaken] at other
    exact verdict.unique other
  · obtain ⟨_, _, _, _, _, _, left⟩ := h.approached
    refine ⟨?_, (left now).2⟩
    rintro info rfl
    obtain ⟨phase, known, ⟨loader, _, rate⟩, session, rfl, own, made, attached, describes⟩ :=
      h.leaves now
    obtain rfl : rate = baud := own
    have baud_kept : d.baud = some baud := by
      rw [Desk.baud, session]
      rfl
    exact ⟨phase, known, baud_kept, loader, session, made, attached, describes⟩

/-- A station that has joined a board got a port and shook hands, and knows of the board what it was
told. -/
theorem joined_tolerates :
    ∃ log info, Concluded .default log .joined 0 none (.ok info) ∧
      let calls := outward (dialogue (diary log 0))
      (∃ port, (picks calls).getLast? = some (.ok port)) ∧ handshakes calls = [.ok ()] ∧
        Traffic.joined.floor.desk.info = some info ∧ ∃ loader, Describes calls loader info := by
  obtain ⟨log, run⟩ := Reach.joined
  have look : Traffic.joined.calls.map (fun c => (c.errand, c.tag, c.pending, c.failure)) =
      [(.connect none, some Traffic.joined.floor.desk.generation, false, none)] := by
    decide +kernel
  obtain ⟨c, alone, look⟩ := List.map_eq_singleton_iff.mp look
  obtain ⟨he, look⟩ := Prod.mk.inj look
  obtain ⟨ht, look⟩ := Prod.mk.inj look
  obtain ⟨ended, unfailed⟩ := Prod.mk.inj look
  have hc : Traffic.joined.calls[0]? = some c := by rw [alone]; rfl
  obtain ⟨r, rest, concluded⟩ := run.concludes hc he ht ended
  cases r with
  | error fault =>
    rw [Call.failure, rest] at unfailed
    cases unfailed
  | ok info =>
    have last := run.alone (by rw [alone]; rfl)
    obtain ⟨_, tolerates⟩ := connect_tolerates run hc he ht
    obtain ⟨succeeds, _, _, left⟩ := tolerates _ rest
    obtain ⟨port, shaken⟩ := succeeds.mp ⟨info, rfl⟩
    obtain ⟨_, known, _, loader, _, _, _, describes⟩ := (left last).1 info rfl
    exact ⟨log, info, concluded, port, shaken, known, loader, describes⟩

end FlashStation
