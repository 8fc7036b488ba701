/-
# What a reader makes of a value

A reader is given bytes, but what it makes of them depends on the value they spell and on nothing
else: not on the blanks, on how a text is escaped or on what follows. And a reader that makes
something of its bytes was given a value. Each reader is therefore a function of values; for lists
and records it is put together from the functions of their parts.

Key definitions: `Json.Decodes`, `Json.textOf?`, `Json.Slot`, `Json.Tree.asRecord?`.
Key theorems: `Json.quoted_body`, `Json.Decodes.list`, `Json.Decodes.record`,
`Json.Decodes.document`.
-/
import FlashStation.Proofs.Grammar

namespace FlashStation.Json

open Text Utf8

/-! ### Readers as functions of values -/

/-- **A reader makes of each value what `decode` makes of it**, and reads nothing but values. -/
structure Decodes {α : Type} (item : Reader α) (decode : Tree → Option α) : Prop where
  /-- What is made of a value, however it is spelled and whatever follows. -/
  agrees : ∀ {t : Tree} {s rest : List UInt8}, Spells (.value t) s rest → Stops rest →
    (item s).toOption = (decode t).map (·, rest)
  /-- What is read is a value. -/
  spells : ∀ {s rest : List UInt8} {a : α}, item s = .ok (a, rest) → ∃ t, Spells (.value t) s rest

theorem toOption_eq_some {ε α : Type} {x : Except ε α} {a : α} :
    x.toOption = some a ↔ x = .ok a := by
  cases x <;> simp [Except.toOption]

theorem toOption_map {ε α β : Type} (f : α → β) (x : Except ε α) :
    (x.map f).toOption = x.toOption.map f := by
  cases x <;> rfl

theorem toOption_bind {ε α β : Type} (x : Except ε α) (f : α → Except ε β) :
    (x >>= f).toOption = x.toOption.bind fun a => (f a).toOption := by
  cases x <;> rfl

/-- A reading that gives what there is of `o` goes well or fails as there is something or not. -/
theorem outcome_of_toOption {ε α β : Type} {x : Except ε (α × β)} {o : Option α} {rest : β}
    (h : x.toOption = o.map (·, rest)) :
    (∃ a, o = some a ∧ x = .ok (a, rest)) ∨ ∃ f, o = none ∧ x = .error f := by
  cases x with
  | error f =>
    cases o with
    | none => exact .inr ⟨f, rfl, rfl⟩
    | some a => cases h
  | ok p =>
    cases o with
    | none => cases h
    | some a => exact .inl ⟨a, rfl, congrArg _ (Option.some.inj h)⟩

theorem map_ok {ε α β : Type} {f : α → β} {x : Except ε α} {b : β} (h : x.map f = .ok b) :
    ∃ a, x = .ok a ∧ f a = b := by
  cases x with
  | error e => cases h
  | ok a => exact ⟨a, rfl, Except.ok.inj h⟩

theorem bind_ok {ε α β : Type} {x : Except ε α} {f : α → Except ε β} {b : β}
    (h : (x >>= f) = .ok b) : ∃ a, x = .ok a ∧ f a = .ok b := by
  cases x with
  | error e => cases h
  | ok a => exact ⟨a, rfl, h⟩

/-! ### Texts -/

/-- The text that stands between quotes, if it is one. -/
def textOf? (k : List UInt8) : Option String :=
  (quoted (k ++ [code '"'])).toOption.map (·.1)

section
variable {α β : Type} {k : List UInt8}

/-- How a reading that starts between quotes goes does not depend on what is behind them: it gives
`a` up to a later place between them, or nothing. -/
def Local (read : List UInt8 → Except Fault (α × List UInt8)) (k : List UInt8) : Prop :=
  (∃ a k', IsBody k' ∧ k'.length < k.length ∧
    ∀ rest, read (k ++ code '"' :: rest) = .ok (a, k' ++ code '"' :: rest)) ∨
  ∀ rest, ∃ f, read (k ++ code '"' :: rest) = .error f

theorem lowSurrogate_local (h : IsBody k) : Local lowSurrogate k := by
  cases h with
  | nil => exact .inr fun rest => ⟨.malformed, rfl⟩
  | @raw b k raw _ =>
    refine .inr fun rest => ⟨.malformed, ?_⟩
    simp only [List.cons_append, lowSurrogate, ne_eq, raw.2.1, not_false_eq_true, if_true]
  | @letter b k letter _ =>
    have other : b ≠ code 'u' := by
      rintro rfl
      cases letter
    refine .inr fun rest => ⟨.malformed, ?_⟩
    simp only [List.cons_append, lowSurrogate, ne_eq, not_true, if_false, other, not_false_eq_true,
      if_true]
  | @unit a b c d k digits body =>
    obtain ⟨n, unit⟩ := Option.isSome_iff_exists.mp digits
    have read (rest : List UInt8) :
        lowSurrogate ((code '\\' :: code 'u' :: a :: b :: c :: d :: k) ++ code '"' :: rest) =
          if 0xDC00 ≤ n ∧ n ≤ 0xDFFF then .ok (n, k ++ code '"' :: rest)
          else .error .malformed := by
      simp only [List.cons_append, lowSurrogate, ne_eq, not_true, if_false, hexUnit_digits unit]
    by_cases low : 0xDC00 ≤ n ∧ n ≤ 0xDFFF
    · exact .inl ⟨n, k, body, by simp only [List.length_cons]; omega,
        fun rest => (read rest).trans (if_pos low)⟩
    · exact .inr fun rest => ⟨.malformed, (read rest).trans (if_neg low)⟩

theorem escapedChar_local (h : IsBody (code '\\' :: k)) : Local escapedChar k := by
  cases h with
  | raw raw => exact absurd rfl raw.2.1
  | @letter b k letter body =>
    obtain ⟨c, found⟩ := Option.isSome_iff_exists.mp letter
    refine .inl ⟨c, k, body, by simp, fun rest => ?_⟩
    rw [List.cons_append, escapedChar, found]
  | @unit a b c d k digits body =>
    obtain ⟨n, unit⟩ := Option.isSome_iff_exists.mp digits
    have letter : letterEscape? (code 'u') = none := by decide
    -- what is made of the number depends on what it is half of, if of anything
    have read (rest : List UInt8) :
        escapedChar ((code 'u' :: a :: b :: c :: d :: k) ++ code '"' :: rest) =
          if n < 0xD800 ∨ 0xDFFF < n then .ok (Char.ofNat n, k ++ code '"' :: rest)
          else if 0xDC00 ≤ n then .error .malformed
          else (lowSurrogate (k ++ code '"' :: rest)).map fun p =>
            (Char.ofNat (0x10000 + (n - 0xD800) * 0x400 + (p.1 - 0xDC00)), p.2) := by
      simp only [List.cons_append, escapedChar, letter, ne_eq, not_true, if_false,
        hexUnit_digits unit]
      cases lowSurrogate (k ++ code '"' :: rest) <;> rfl
    by_cases plain : n < 0xD800 ∨ 0xDFFF < n
    · exact .inl ⟨Char.ofNat n, k, body, by simp only [List.length_cons]; omega,
        fun rest => (read rest).trans (if_pos plain)⟩
    by_cases low : 0xDC00 ≤ n
    · exact .inr fun rest =>
        ⟨.malformed, (read rest).trans ((if_neg plain).trans (if_pos low))⟩
    rcases lowSurrogate_local body with ⟨m, k', body', shorter, second⟩ | fault
    · refine .inl ⟨Char.ofNat (0x10000 + (n - 0xD800) * 0x400 + (m - 0xDC00)), k', body',
        by simp only [List.length_cons]; omega, fun rest => ?_⟩
      rw [read, if_neg plain, if_neg low, second]
      rfl
    · refine .inr fun rest => ?_
      obtain ⟨f, second⟩ := fault rest
      exact ⟨f, by rw [read, if_neg plain, if_neg low, second]; rfl⟩

theorem quotedBytes_fault {s : List UInt8} {f : Fault} (h : escapedChar s = .error f) :
    quotedBytes (code '\\' :: s) = .error f := by
  rw [quotedBytes, if_neg (by decide), if_pos rfl]
  split
  · rename_i f' fault
    rw [h] at fault
    cases fault
    rfl
  · rename_i c rest found
    rw [h] at found
    cases found

/-- How reading goes on up to the closing quote does not depend on what is behind it. -/
def Settled (k : List UInt8) : Prop :=
  (∃ bytes, ∀ rest, quotedBytes (k ++ code '"' :: rest) = .ok (bytes, rest)) ∨
  ∀ rest, ∃ f, quotedBytes (k ++ code '"' :: rest) = .error f

/-- Something read in front leaves it settled. -/
theorem Settled.behind {k' front : List UInt8} (h : Settled k')
    (read : ∀ rest, quotedBytes (k ++ code '"' :: rest) =
      (quotedBytes (k' ++ code '"' :: rest)).map fun r => (front ++ r.1, r.2)) : Settled k := by
  rcases h with ⟨bytes, more⟩ | fault
  · refine .inl ⟨front ++ bytes, fun rest => ?_⟩
    rw [read, more]
    rfl
  · refine .inr fun rest => ?_
    obtain ⟨f, more⟩ := fault rest
    refine ⟨f, ?_⟩
    rw [read, more]
    rfl

theorem Settled.escape (body : IsBody (code '\\' :: k))
    (h : ∀ k', k'.length < k.length → IsBody k' → Settled k') : Settled (code '\\' :: k) := by
  rcases escapedChar_local body with ⟨c, k', body', shorter, read⟩ | fault
  · exact (h k' shorter body').behind fun rest => quotedBytes_escape (read rest)
  · refine .inr fun rest => ?_
    obtain ⟨f, read⟩ := fault rest
    exact ⟨f, quotedBytes_fault read⟩

/-- What stands between quotes is read alike whatever is behind them. -/
theorem IsBody.settled (h : IsBody k) : Settled k := by
  -- an escape may be two, so the induction is on the length
  induction len : k.length using Nat.strongRecOn generalizing k with
  | ind n ih =>
    subst len
    cases h with
    | nil =>
      refine .inl ⟨[], fun rest => ?_⟩
      rw [List.nil_append, quotedBytes, if_pos rfl]
    | @raw b k raw body =>
      have alone (rest : List UInt8) := quotedBytes_raw (List.forall_mem_singleton.mpr raw)
        (k ++ code '"' :: rest)
      exact (ih k.length (Nat.lt_succ_self _) body rfl).behind alone
    | letter letter body =>
      exact .escape (.letter letter body) fun k' shorter body' =>
        ih k'.length (Nat.lt_trans shorter (Nat.lt_succ_self _)) body' rfl
    | unit digits body =>
      exact .escape (.unit digits body) fun k' shorter body' =>
        ih k'.length (Nat.lt_trans shorter (Nat.lt_succ_self _)) body' rfl

/-- **What is read between quotes is a text on its own.** -/
theorem quoted_body (h : IsBody k) (rest : List UInt8) :
    (quoted (k ++ code '"' :: rest)).toOption = (textOf? k).map (·, rest) := by
  rcases h.settled with ⟨bytes, read⟩ | fault
  · simp only [textOf?, quoted, read]
    cases Utf8.decode? bytes <;> rfl
  · obtain ⟨f, read⟩ := fault rest
    obtain ⟨f', alone⟩ := fault []
    simp only [textOf?, quoted, read, alone]
    rfl

/-- What is read as a text may stand between quotes. -/
theorem body_of_quoted {s rest : List UInt8} {t : String} (h : quoted s = .ok (t, rest)) :
    ∃ k, IsBody k ∧ s = k ++ code '"' :: rest := by
  unfold quoted at h
  split at h
  · cases h
  · rename_i bytes rest' read
    split at h
    · cases h
      exact body_of_passQuoted (passQuoted_quotedBytes read)
    · cases h

end

/-! ### Single words -/

namespace Tree

/-- A text. -/
def asText? : Tree → Option String
  | .text k => textOf? k
  | _ => none

/-- A truth value. -/
def asTruth? : Tree → Option Bool
  | .bool b => some b
  | _ => none

/-- A natural number below a bound. -/
def asNatural? (bound : Nat) : Tree → Option Nat
  | .number false n => n.value.toOption.join.filter (· < bound)
  | _ => none

/-- What a function makes of a value, or `null` for none. -/
def orNull? (decode : Tree → Option α) : Tree → Option (Option α)
  | .null => some none
  | t => (decode t).map some

/-- A list of what a function makes of its items. -/
def asList? (decode : Tree → Option α) : Tree → Option (List α)
  | .list ts => ts.mapM decode
  | _ => none

end Tree

namespace Decodes

variable {α : Type} {item : Reader α} {decode : Tree → Option α}

theorem text : Decodes Json.text Tree.asText? where
  agrees {t s rest} h stops := by
    obtain ⟨b, u, start, kind⟩ := h.starts
    cases t with
    | text k =>
      cases h with
      | text body start =>
        rw [Json.text, start]
        exact quoted_body body rest
    | _ =>
      have other := Kind.ne_of_starts (c := '"') kind nofun
      rw [Json.text, start]
      simp only [other, if_false]
      rfl
  spells {s rest a} h := by
    unfold Json.text at h
    split at h
    · rename_i b u start
      split_ifs at h with quote
      obtain ⟨k, body, rfl⟩ := body_of_quoted h
      exact ⟨.text k, .text body (quote ▸ start)⟩
    · cases h

theorem truth : Decodes Json.truth Tree.asTruth? where
  agrees {t s rest} h stops := by
    obtain ⟨b, u, start, kind⟩ := h.starts
    cases t with
    | bool b =>
      cases h with
      | bool start =>
        rw [Json.truth, start]
        cases b <;> rfl
    | _ =>
      have yes := Kind.ne_of_starts (c := 't') kind nofun
      have no := Kind.ne_of_starts (c := 'f') kind nofun
      rw [Json.truth, start]
      simp only [yes, no, if_false]
      rfl
  spells {s rest a} h := by
    unfold Json.truth at h
    split at h
    · rename_i b u start
      split_ifs at h with yes no
      · obtain ⟨r, read, same⟩ := map_ok h
        cases same
        exact ⟨.bool true, .bool (by rw [start, yes, name_eq_ok.mp read]; rfl)⟩
      · obtain ⟨r, read, same⟩ := map_ok h
        cases same
        exact ⟨.bool false, .bool (by rw [start, no, name_eq_ok.mp read]; rfl)⟩
    · cases h

theorem natural (bound : Nat) : Decodes (Json.natural bound) (Tree.asNatural? bound) where
  agrees {t s rest} h stops := by
    obtain ⟨b, u, start, kind⟩ := h.starts
    have word (other : t.kind ≠ .number) : isDigit b = false := by
      rw [← Bool.not_eq_true]
      intro digit
      exact other (Option.some.inj (kind.symm.trans (Kind.of?_digit digit)))
    cases t with
    | number minus n =>
      cases h with
      | @number _ _ v _ _ spelled written =>
        rw [start] at written
        cases minus with
        | true =>
          obtain ⟨rfl, -⟩ := List.cons.inj written
          rw [Json.natural, start]
          rfl
        | false =>
          have read := figures_spelled .truncated spelled stops
          obtain ⟨b', v', rfl, digit⟩ := spelled.cons
          obtain ⟨rfl, -⟩ := List.cons.inj written
          rw [← show b :: u = b :: v' ++ rest from written] at read
          rw [Json.natural, start]
          simp only [digit, if_true, read, bind, Except.bind, Tree.asNatural?]
          rcases n.value with f | (_ | v)
          · rfl
          · rfl
          · by_cases small : v < bound <;>
              simp [small, Except.toOption, Option.filter_some]
    | _ =>
      rw [Json.natural, start]
      simp only [word nofun, Bool.false_eq_true, if_false]
      rfl
  spells {s rest a} h := by
    unfold Json.natural at h
    split at h
    · rename_i b u start
      split_ifs at h with digit
      obtain ⟨⟨n, r⟩, read, h⟩ := bind_ok h
      obtain ⟨value, -, h⟩ := bind_ok h
      obtain ⟨v, spelled, written⟩ := figures_spells read
      have same : r = rest := by
        cases value with
        | none => cases h
        | some v =>
          replace h : (if v < bound then Except.ok (v, r) else Except.error Fault.mistyped) =
            .ok (a, rest) := h
          split_ifs at h
          cases h
          rfl
      exact ⟨.number false n, .number spelled (by rw [start, written, same]; rfl)⟩
    · cases h

theorem optional (h : Decodes item decode) :
    Decodes (Json.optional item) (Tree.orNull? decode) where
  agrees {t s rest} spelled stops := by
    obtain ⟨b, u, start, kind⟩ := spelled.starts
    cases t with
    | null =>
      cases spelled with
      | null start =>
        rw [Json.optional, start]
        rfl
    | _ =>
      have other := Kind.ne_of_starts (c := 'n') kind nofun
      have read := h.agrees (spells_dropSpace.mpr spelled) stops
      rw [start] at read
      rw [Json.optional, start]
      simp only [other, if_false]
      rw [toOption_map, read, Tree.orNull?, Option.map_map, Option.map_map]
      · rfl
      · nofun
  spells {s rest a} read := by
    unfold Json.optional at read
    split at read
    · rename_i b u start
      split_ifs at read with null
      · obtain ⟨r, read, same⟩ := map_ok read
        cases same
        exact ⟨.null, .null (by rw [start, null, name_eq_ok.mp read]; rfl)⟩
      · obtain ⟨p, found, same⟩ := map_ok read
        cases same
        obtain ⟨t, spelled⟩ := h.spells found
        exact ⟨t, spells_dropSpace.mp (start ▸ spelled)⟩
    · cases read

end Decodes

/-! ### Lists -/

section
variable {α : Type} {item : Reader α} {decode : Tree → Option α} {first : Bool}
  {ts : List Tree} {t : Tree} {s s' rest : List UInt8}

theorem nextItem_closing (h : dropSpace s = code ']' :: rest) :
    nextItem first s = .ok (false, code ']' :: rest) := by
  rw [nextItem, h]
  exact if_pos rfl

theorem nextItem_follows (h : Follows first s s') (value : Spells (.value t) s' rest) :
    nextItem first s = .ok (true, dropSpace s') := by
  obtain ⟨b, u, start, kind⟩ := value.starts
  have inside := Kind.ne_of_starts (c := ']') kind nofun
  cases first with
  | true =>
    obtain rfl : s = s' := h
    rw [nextItem, start]
    exact (if_neg inside).trans (if_pos rfl)
  | false =>
    have comma : dropSpace s = code ',' :: s' := h
    rw [nextItem, comma]
    simp only [start, inside, if_false, if_true, Bool.false_eq_true]
    rfl

/-- What stands in front of the end of a list, or in front of one more item. -/
theorem nextItem_ok {more : Bool} (h : nextItem first s = .ok (more, rest)) :
    if more then ∃ s', Follows first s s' ∧ rest = dropSpace s'
    else ∃ r, rest = code ']' :: r ∧ dropSpace s = code ']' :: r := by
  unfold nextItem at h
  split at h
  · cases h
  · rename_i b t start
    split_ifs at h with ends isFirst comma
    · cases h
      exact ⟨t, by rw [ends], by rw [start, ends]⟩
    · cases h
      exact ⟨s, by rw [isFirst]; rfl, start.symm⟩
    · split at h
      · cases h
      · rename_i c u next
        split_ifs at h
        cases h
        refine ⟨t, ?_, next.symm⟩
        rw [(Bool.not_eq_true _).mp isFirst]
        exact (show dropSpace s = code ',' :: t from comma ▸ start)

theorem endList_ok : endList s = .ok rest ↔ dropSpace s = code ']' :: rest := by
  unfold endList
  split
  · rename_i start
    simp [start]
  · rename_i b t start
    rw [start, List.cons.injEq]
    by_cases ends : b = code ']' <;> simp [ends]

/-- The items of a list are read one by one. -/
theorem items_agrees (h : Decodes item decode) (spelled : Spells (.items first ts) s rest) :
    (items item first s).toOption = (ts.mapM decode).map (·, code ']' :: rest) := by
  induction ts generalizing first s with
  | nil =>
    cases spelled with
    | noItem ends =>
      rw [items, nextItem_closing ends]
      rfl
  | cons t ts ih =>
    cases spelled with
    | @item _ _ _ _ s1 s2 _ follows value more =>
      have shorter : s2.length < s.length := Nat.lt_of_lt_of_le value.length_lt follows.length_le
      rw [items, nextItem_follows follows value, List.mapM_cons]
      rcases outcome_of_toOption (h.agrees (spells_dropSpace.mpr value) more.items_stop) with
        ⟨a, decoded, read⟩ | ⟨f, decoded, read⟩
      · simp only [read, decoded, shorter, if_true, toOption_map, ih more]
        cases ts.mapM decode <;> rfl
      · simp only [read, decoded]
        rfl

/-- What is read as items is the items of a list, up to its end. -/
theorem items_spells (h : Decodes item decode) {as : List α}
    (read : items item first s = .ok (as, s')) :
    ∃ ts rest, s' = code ']' :: rest ∧ Spells (.items first ts) s rest := by
  fun_induction items item first s generalizing as with
  | case1 => cases read
  | case2 first s t next =>
    obtain ⟨r, rfl, ends⟩ := nextItem_ok next
    cases read
    exact ⟨[], r, rfl, .noItem ends⟩
  | case3 => cases read
  | case4 first s t next a r found shorter ih =>
    obtain ⟨s1, follows, rfl⟩ := nextItem_ok next
    obtain ⟨p, more, same⟩ := map_ok read
    cases same
    obtain ⟨v, value⟩ := h.spells found
    obtain ⟨ts, rest, ends, items⟩ := ih more
    exact ⟨v :: ts, rest, ends, .item follows (spells_dropSpace.mp value) items⟩
  | case5 => cases read

/-- **A list is read item by item.** -/
theorem Decodes.list (h : Decodes item decode) :
    Decodes (Json.list item) (Tree.asList? decode) where
  agrees {t s rest} spelled stops := by
    obtain ⟨b, u, start, kind⟩ := spelled.starts
    cases t with
    | list ts =>
      cases spelled with
      | list start items =>
        rw [Json.list, start]
        simp only [if_true, toOption_bind, items_agrees h items, Tree.asList?]
        cases ts.mapM decode <;> rfl
    | _ =>
      have other := Kind.ne_of_starts (c := '[') kind nofun
      rw [Json.list, start]
      simp only [other, if_false]
      rfl
  spells {s rest as} read := by
    unfold Json.list at read
    split at read
    · rename_i b u start
      split_ifs at read with list
      obtain ⟨⟨as', r⟩, found, read⟩ := bind_ok read
      obtain ⟨r', ends, read⟩ := bind_ok read
      cases read
      obtain ⟨ts, rest, rfl, items⟩ := items_spells h found
      cases ends
      exact ⟨.list ts, .list (list ▸ start) items⟩
    · cases read

end

/-! ### Records -/

/-- A field of a record, and what it makes of the value that is read into it. -/
structure Slot (σ : Type) where
  /-- The field. -/
  field : Field σ
  /-- What becomes of the record. -/
  take : σ → Tree → Option σ
  /-- The field is read as a function of values. -/
  decodes : ∀ r, Decodes (field.fill r) (take r)
  /-- What it takes fills it. -/
  settles : ∀ {r t r'}, take r t = some r' → field.filled r' = true

namespace Slot

variable {σ α : Type} {slots : List (Slot σ)}

/-- A field that is kept in an optional place of the record. -/
def of (name : String) (get : σ → Option α) (set : σ → α → σ)
    (get_set : ∀ r a, get (set r a) = some a) {item : Reader α} {decode : Tree → Option α}
    (h : Decodes item decode) : Slot σ where
  field := .of name get set item
  take r t := (decode t).map (set r)
  decodes r := {
    agrees := fun spelled stops => by
      refine (toOption_map _ _).trans ?_
      rw [h.agrees spelled stops, Option.map_map, Option.map_map]
      rfl
    spells := fun read => by
      obtain ⟨p, found, same⟩ := map_ok read
      cases same
      exact h.spells found }
  settles taken := by
    obtain ⟨a, -, rfl⟩ := Option.map_eq_some_iff.mp taken
    exact congrArg Option.isSome (get_set _ a)

/-- The field of a name. -/
def find? (slots : List (Slot σ)) (key : String) : Option (Slot σ) :=
  slots.find? (·.field.name == key)

/-- What a record becomes by the value of a field: one that it has already takes no other. -/
def offer (slot : Slot σ) (r : σ) (t : Tree) : Option σ :=
  if slot.field.filled r then none else slot.take r t

/-- What a record becomes by the value of a name: no name but those of the fields changes it. -/
def put (slots : List (Slot σ)) (r : σ) (key : String) (t : Tree) : Option σ :=
  match find? slots key with
  | none => some r
  | some slot => slot.offer r t

/-- What a record becomes by a member of an object. -/
def fill (slots : List (Slot σ)) (r : σ) (m : List UInt8 × Tree) : Option σ :=
  (textOf? m.1).bind (put slots r · m.2)

/-- What a record becomes by a list of its fields in their order. -/
def place : List (Slot σ) → σ → List Tree → Option σ
  | _, r, [] => some r
  | [], _, _ :: _ => none
  | slot :: more, r, t :: ts => (slot.take r t).bind (place more · ts)

end Slot

/-- A record, from a list of its fields or from its members. -/
def Tree.asRecord? {σ α : Type} (slots : List (Slot σ)) (empty : σ) (finish : σ → Option α) :
    Tree → Option α
  | .list ts => (Slot.place slots empty ts).bind finish
  | .object ms => (ms.foldlM (Slot.fill slots) empty).bind finish
  | _ => none

section
variable {σ α : Type} {slots : List (Slot σ)} {first : Bool} {k : List UInt8} {t : Tree}
  {ts : List Tree} {ms : List (List UInt8 × Tree)} {s s1 s2 rest : List UInt8} {r r' : σ}

/-- A list of fields is read field by field, and must end with the last that is there. -/
theorem positional_agrees (slots : List (Slot σ)) (spelled : Spells (.items first ts) s rest) :
    ((positional (slots.map (·.field)) first r s).toOption.bind fun p =>
      (endList p.2).toOption.map (p.1, ·)) = (Slot.place slots r ts).map (·, rest) := by
  induction slots generalizing first ts s r with
  | nil =>
    cases spelled with
    | noItem ends =>
      show (endList s).toOption.map (r, ·) = some (r, rest)
      rw [endList_ok.mpr ends]
      rfl
    | @item _ t ts _ s1 s2 _ follows value more =>
      -- another item stands where the list should end
      show (endList s).toOption.map (r, ·) = none
      cases ended : endList s with
      | error f => rfl
      | ok r' =>
        have next := nextItem_follows follows value
        rw [nextItem_closing (endList_ok.mp ended)] at next
        cases next
  | cons slot slots ih =>
    cases spelled with
    | noItem ends =>
      rw [List.map_cons, positional, nextItem_closing ends]
      rfl
    | @item _ t ts _ s1 s2 _ follows value more =>
      rw [List.map_cons, positional, nextItem_follows follows value, Slot.place]
      rcases outcome_of_toOption
          ((slot.decodes r).agrees (spells_dropSpace.mpr value) more.items_stop) with
        ⟨r', taken, read⟩ | ⟨f, taken, read⟩
      · simp only [read, taken, Option.bind_some]
        exact ih more
      · simp only [read, taken]
        rfl

/-- What is read as fields in their order is the items of a list. -/
theorem positional_spells (slots : List (Slot σ)) {s' : List UInt8}
    (read : positional (slots.map (·.field)) first r s = .ok (r', s'))
    (ends : endList s' = .ok rest) : ∃ ts, Spells (.items first ts) s rest := by
  induction slots generalizing first s r with
  | nil =>
    cases read
    exact ⟨[], .noItem (endList_ok.mp ends)⟩
  | cons slot slots ih =>
    rw [List.map_cons, positional] at read
    split at read
    · cases read
    · rename_i t next
      obtain ⟨u, rfl, closing⟩ := nextItem_ok next
      cases read
      cases ends
      exact ⟨[], .noItem closing⟩
    · rename_i t next
      obtain ⟨s1, follows, rfl⟩ := nextItem_ok next
      split at read
      · cases read
      · rename_i r1 s2 found
        obtain ⟨v, value⟩ := (slot.decodes r).spells found
        obtain ⟨ts, items⟩ := ih read
        exact ⟨v :: ts, .item follows (spells_dropSpace.mp value) items⟩

theorem nextKey_closing (h : dropSpace s = code '\x7d' :: rest) :
    nextKey first s = .ok (none, code '\x7d' :: rest) := by
  rw [nextKey, h]
  exact if_pos rfl

/-- The name of the next member is read as a text on its own. -/
theorem nextKey_follows (h : Follows first s s1) (body : IsBody k)
    (start : dropSpace s1 = code '"' :: (k ++ code '"' :: s2)) :
    (nextKey first s).toOption = (textOf? k).map fun key => (some key, s2) := by
  have read : ((quoted (k ++ code '"' :: s2)).map fun p => (some p.1, p.2)).toOption =
      (textOf? k).map fun key => (some key, s2) := by
    rw [toOption_map, quoted_body body, Option.map_map]
    rfl
  cases first with
  | true =>
    obtain rfl : s = s1 := h
    rw [nextKey, start]
    exact read
  | false =>
    have comma : dropSpace s = code ',' :: s1 := h
    rw [nextKey, comma]
    simp only [start]
    exact read

/-- What stands in front of the end of an object, or in front of one more member. -/
theorem nextKey_ok {key : Option String} (h : nextKey first s = .ok (key, rest)) :
    if key.isSome then ∃ s1 k, Follows first s s1 ∧ IsBody k ∧
      dropSpace s1 = code '"' :: (k ++ code '"' :: rest)
    else ∃ r, rest = code '\x7d' :: r ∧ dropSpace s = code '\x7d' :: r := by
  have named {t s1 : List UInt8} (follows : Follows first s s1)
      (start : dropSpace s1 = code '"' :: t)
      (h : ((quoted t).map fun p => (some p.1, p.2)) = .ok (key, rest)) :
      if key.isSome then ∃ s1 k, Follows first s s1 ∧ IsBody k ∧
        dropSpace s1 = code '"' :: (k ++ code '"' :: rest)
      else ∃ r, rest = code '\x7d' :: r ∧ dropSpace s = code '\x7d' :: r := by
    obtain ⟨p, read, same⟩ := map_ok h
    cases same
    obtain ⟨k, body, rfl⟩ := body_of_quoted read
    exact ⟨s1, k, follows, body, start⟩
  unfold nextKey at h
  split at h
  · cases h
  · rename_i b t start
    split_ifs at h with ends isFirst quote comma
    · cases h
      exact ⟨t, by rw [ends], by rw [start, ends]⟩
    · exact named (by rw [isFirst]; rfl) (quote ▸ start) h
    · split at h
      · cases h
      · rename_i c u next
        split_ifs at h with quote
        refine named ?_ (quote ▸ next) h
        rw [(Bool.not_eq_true _).mp isFirst]
        exact (show dropSpace s = code ',' :: t from comma ▸ start)

theorem colon_ok : colon s = .ok rest ↔ dropSpace s = code ':' :: rest := by
  unfold colon
  split
  · rename_i start
    simp [start]
  · rename_i b t start
    rw [start, List.cons.injEq]
    by_cases colon : b = code ':' <;> simp [colon]

theorem endObject_ok : endObject s = .ok rest ↔ dropSpace s = code '\x7d' :: rest := by
  unfold endObject
  split
  · rename_i start
    simp [start]
  · rename_i b t start
    rw [start, List.cons.injEq]
    by_cases ends : b = code '\x7d' <;> simp [ends]

theorem find?_fields (key : String) :
    (slots.map (·.field)).find? (·.name == key) = (Slot.find? slots key).map (·.field) :=
  List.find?_map

/-- The value of a member is read into the record if it is known, and passed over if not. -/
theorem member_agrees (slots : List (Slot σ)) (r : σ) (key : String)
    (title : dropSpace s = code ':' :: s1) (value : Spells (.value t) s1 rest) (stops : Stops rest) :
    (member (slots.map (·.field)) key r s).toOption =
      (Slot.put slots r key t).map (·, rest) := by
  have after := colon_ok.mpr title
  rw [member, find?_fields, Slot.put]
  cases Slot.find? slots key with
  | none =>
    simp only [Option.map_none, after, bind, Except.bind, skip_spelled value stops]
    rfl
  | some slot =>
    show _ = (slot.offer r t).map (·, rest)
    rw [Slot.offer]
    by_cases filled : slot.field.filled r = true
    · simp only [Option.map_some, filled, if_true]
      rfl
    · simp only [Option.map_some, filled, Bool.false_eq_true, if_false, after, bind, Except.bind]
      exact (slot.decodes r).agrees value stops

/-- A member that is read has a colon and a value. -/
theorem member_spells {key : String}
    (read : member (slots.map (·.field)) key r s = .ok (r', rest)) :
    ∃ t s1, dropSpace s = code ':' :: s1 ∧ Spells (.value t) s1 rest := by
  rw [member, find?_fields] at read
  cases found : Slot.find? slots key with
  | none =>
    rw [found] at read
    obtain ⟨s1, title, read⟩ := bind_ok read
    obtain ⟨s2, passed, read⟩ := bind_ok read
    cases read
    obtain ⟨t, value⟩ := skip_spells passed
    exact ⟨t, s1, colon_ok.mp title, value⟩
  | some slot =>
    simp only [found, Option.map_some] at read
    split_ifs at read
    obtain ⟨s1, title, read⟩ := bind_ok read
    obtain ⟨t, value⟩ := (slot.decodes r).spells read
    exact ⟨t, s1, colon_ok.mp title, value⟩

/-- The members of an object are read one by one. -/
theorem members_agrees (spelled : Spells (.members first ms) s rest) :
    (members (slots.map (·.field)) first r s).toOption =
      (ms.foldlM (Slot.fill slots) r).map (·, code '\x7d' :: rest) := by
  induction ms generalizing first s r with
  | nil =>
    cases spelled with
    | noMember ends =>
      rw [members, nextKey_closing ends]
      rfl
  | cons m ms ih =>
    cases spelled with
    | @member _ k t _ _ s1 s2 s3 _ follows titled value more =>
      have shorter : s3.length < s.length :=
        Nat.lt_of_lt_of_le (Nat.lt_trans value.length_lt titled.length_lt) follows.length_le
      obtain ⟨body, s', start, title⟩ := titled
      have next := nextKey_follows follows body start
      rw [members, List.foldlM_cons, Slot.fill]
      cases name : textOf? k with
      | none =>
        rw [name] at next
        cases read : nextKey first s with
        | error f => rfl
        | ok p =>
          rw [read] at next
          cases next
      | some key =>
        rw [name] at next
        rw [toOption_eq_some.mp next, Option.bind_some]
        rcases outcome_of_toOption
            (member_agrees slots r key title value more.members_stop) with
          ⟨r', put, read⟩ | ⟨f, put, read⟩
        · simp only [read, put, shorter, if_true]
          exact ih more
        · simp only [read, put]
          rfl

/-- What is read as members is the members of an object, up to its end. -/
theorem members_spells {s' : List UInt8}
    (read : members (slots.map (·.field)) first r s = .ok (r', s')) :
    ∃ ms rest, s' = code '\x7d' :: rest ∧ Spells (.members first ms) s rest := by
  generalize fields : slots.map (·.field) = fs at read
  fun_induction members fs first r s with
  | case1 => cases read
  | case2 first r s t next =>
    obtain ⟨u, rfl, ends⟩ := nextKey_ok next
    cases read
    exact ⟨[], u, rfl, .noMember ends⟩
  | case3 => cases read
  | case4 first r s key t next r1 u found shorter ih =>
    obtain ⟨s1, k, follows, body, start⟩ := nextKey_ok next
    subst fields
    obtain ⟨v, s2, title, value⟩ := member_spells found
    obtain ⟨ms, rest, ends, members⟩ := ih read
    exact ⟨(k, v) :: ms, rest, ends, .member follows ⟨body, t, start, title⟩ value members⟩
  | case5 => cases read

/-- What is made of a record is made of what it became, if it ends where it should. -/
theorem finish_agrees {x : Except Fault (σ × List UInt8)} {o : Option σ}
    (finish : σ → Option α) (ending : List UInt8 → Except Fault (List UInt8))
    (h : (x.toOption.bind fun p => (ending p.2).toOption.map (p.1, ·)) = o.map (·, rest)) :
    (x >>= fun p =>
        match finish p.1 with
        | none => .error .mistyped
        | some a => (ending p.2).map (a, ·)).toOption =
      (o.bind finish).map (·, rest) := by
  rcases x with f | ⟨r, u⟩
  · cases o with
    | none => rfl
    | some r => cases h
  replace h : (ending u).toOption.map (r, ·) = o.map (·, rest) := h
  show Except.toOption (match finish r with
    | none => .error .mistyped
    | some a => (ending u).map (a, ·)) = _
  cases ended : ending u with
  | error f =>
    rw [ended] at h
    cases o with
    | none => cases finish r <;> rfl
    | some r' => cases h
  | ok u' =>
    rw [ended] at h
    cases o with
    | none => cases h
    | some r' =>
      obtain ⟨rfl, rfl⟩ := Prod.mk.inj (Option.some.inj h)
      rw [Option.bind_some]
      cases finish r <;> rfl

/-- **A record is read field by field from a list, and member by member from an object.** -/
theorem Decodes.record (slots : List (Slot σ)) (empty : σ) (finish : σ → Option α) :
    Decodes (Json.record (slots.map (·.field)) empty finish)
      (Tree.asRecord? slots empty finish) where
  agrees {t s rest} spelled _ := by
    obtain ⟨b, u, start, kind⟩ := spelled.starts
    cases t with
    | list ts =>
      cases spelled with
      | list start items =>
        rw [Json.record, start]
        exact finish_agrees finish endList (positional_agrees slots items)
    | object ms =>
      cases spelled with
      | object start members =>
        rw [Json.record, start]
        refine finish_agrees finish endObject ?_
        rw [members_agrees members, Option.bind_map]
        exact Option.map_eq_bind.symm
    | _ =>
      have list := Kind.ne_of_starts (c := '[') kind nofun
      have object := Kind.ne_of_starts (c := '\x7b') kind nofun
      rw [Json.record, start]
      simp only [list, object, if_false]
      rfl
  spells {s rest a} read := by
    unfold Json.record at read
    split at read
    · rename_i b u start
      split_ifs at read with list object
      · obtain ⟨⟨r, s'⟩, found, read⟩ := bind_ok read
        cases finished : finish r with
        | none => simp only [finished] at read; cases read
        | some a' =>
          simp only [finished] at read
          obtain ⟨r', ends, same⟩ := map_ok read
          cases same
          obtain ⟨ts, items⟩ := positional_spells slots found ends
          exact ⟨.list ts, .list (list ▸ start) items⟩
      · obtain ⟨⟨r, s'⟩, found, read⟩ := bind_ok read
        obtain ⟨ms, rest', rfl, members⟩ := members_spells found
        cases finished : finish r with
        | none => simp only [finished] at read; cases read
        | some a' =>
          simp only [finished] at read
          obtain ⟨r', ends, same⟩ := map_ok read
          cases same
          rw [endObject_ok] at ends
          cases ends
          exact ⟨.object ms, .object (object ▸ start) members⟩
    · cases read

end

/-! ### Documents -/

/-- Some bytes are a document: they spell a value, and there are only blanks behind it. -/
def IsDocument (t : Tree) (s : List UInt8) : Prop :=
  ∃ rest, Spells (.value t) s rest ∧ dropSpace rest = []

/-- There is a document of a value, and who reads one gets `a` from it. -/
def ReadAs {ε α : Type} (read : List UInt8 → Except ε α) (t : Tree) (a : α) : Prop :=
  (∃ s, IsDocument t s) ∧ ∀ s, IsDocument t s → read s = .ok a

section
variable {t : Tree} {ts : List Tree} {ms : List (List UInt8 × Tree)} {s rest : List UInt8}

theorem Spells.isDocument (h : Spells (.value t) s rest) : ∃ s', IsDocument t s' := by
  obtain ⟨v, -, alone⟩ := h.fronts
  exact ⟨v ++ [], [], alone [], rfl⟩

theorem Spells.items_document {first : Bool} (h : Spells (.items first ts) s rest) :
    ∀ t ∈ ts, ∃ s', IsDocument t s' := by
  induction ts generalizing first s with
  | nil => exact nofun
  | cons t ts ih =>
    cases h with
    | item _ value more => exact List.forall_mem_cons.mpr ⟨value.isDocument, ih more⟩

theorem Spells.members_document {first : Bool} (h : Spells (.members first ms) s rest) :
    ∀ m ∈ ms, ∃ s', IsDocument m.2 s' := by
  induction ms generalizing first s with
  | nil => exact nofun
  | cons m ms ih =>
    cases h with
    | member _ _ value more => exact List.forall_mem_cons.mpr ⟨value.isDocument, ih more⟩

/-- An item of a list is a document of its own. -/
theorem IsDocument.items (h : IsDocument (.list ts) s) : ∀ t ∈ ts, ∃ s', IsDocument t s' := by
  obtain ⟨rest, spelled, -⟩ := h
  cases spelled with
  | list _ items => exact items.items_document

/-- The value of a member of an object is a document of its own. -/
theorem IsDocument.members (h : IsDocument (.object ms) s) :
    ∀ m ∈ ms, ∃ s', IsDocument m.2 s' := by
  obtain ⟨rest, spelled, -⟩ := h
  cases spelled with
  | object _ members => exact members.members_document

end

section
variable {α : Type} {item : Reader α} {decode : Tree → Option α} {t : Tree} {s : List UInt8} {a : α}

/-- A document is read as its value. -/
theorem Decodes.document_agrees (h : Decodes item decode) (doc : IsDocument t s) :
    Json.document item s = .ok a ↔ decode t = some a := by
  obtain ⟨rest, spelled, blank⟩ := doc
  have stops : Stops rest := .of_dropSpace (blank ▸ .nil)
  rcases outcome_of_toOption (h.agrees spelled stops) with ⟨a', decoded, read⟩ | ⟨f, decoded, read⟩
  · rw [Json.document, read, decoded, Option.some.injEq]
    simp only [blank, if_true, Except.ok.injEq]
  · rw [Json.document, read, decoded]
    simp only [reduceCtorEq]

/-- What is read as a document is one. -/
theorem Decodes.isDocument (h : Decodes item decode) (read : Json.document item s = .ok a) :
    ∃ t, IsDocument t s := by
  unfold Json.document at read
  split at read
  · cases read
  · rename_i a' rest found
    split_ifs at read with blank
    obtain ⟨t, spelled⟩ := h.spells found
    exact ⟨t, rest, spelled, blank⟩

end

end FlashStation.Json
