/-
# A value is read back from any layout

A value is written with or without blanks between its words, and the two written forms differ in
nothing else: each spells the value. Who reads a value of a kind gets it from each of them. Lists
are read item by item and records member by member: what a record is filled with depends on the
members and not on where the blanks are.

Key definitions: `Json.Layout`, `Json.printed`, `Json.tree`, `Json.Reads`, `Json.Filled`.
Key theorems: `Json.printed_tight`, `Json.printed_roomy`, `Json.spells_printed`, `Json.Reads.list`,
`Json.Reads.record`, `Json.Reads.document`.
-/
import FlashStation.Proofs.Decoding

namespace FlashStation.Json

open Text Utf8

/-! ### Blanks -/

/-- There is nothing but blanks. -/
def IsBlank (w : List UInt8) : Prop :=
  ∀ b ∈ w, isSpace b = true

theorem IsBlank.nil : IsBlank [] := nofun

theorem IsBlank.single {b : UInt8} (h : isSpace b = true) : IsBlank [b] :=
  List.forall_mem_singleton.mpr h

theorem dropSpace_blank {w : List UInt8} (h : IsBlank w) (s : List UInt8) :
    dropSpace (w ++ s) = dropSpace s :=
  List.dropWhile_append_of_pos h

theorem dropSpace_cons {b : UInt8} (h : isSpace b = false) (s : List UInt8) :
    dropSpace (b :: s) = b :: s := by
  rw [dropSpace, List.dropWhile_cons, h, if_neg Bool.false_ne_true]

/-- A number in front of blanks is at its end if it is in front of what follows them. -/
theorem Stops.blank {w s : List UInt8} (h : IsBlank w) (stops : Stops s) : Stops (w ++ s) := by
  cases w with
  | nil => exact stops
  | cons b w => exact .cons (continues_space (h b List.mem_cons_self)) _

/-! ### Layouts -/

/-- Where the blanks of a document are. -/
structure Layout where
  /-- The blanks in front of an item, a member or the end of a list or an object, at a depth. -/
  line : Nat → List UInt8
  /-- The blanks behind a colon. -/
  gap : List UInt8
  line_blank : ∀ depth, IsBlank (line depth)
  gap_blank : IsBlank gap

namespace Layout

/-- No blanks at all. -/
def tight : Layout := ⟨fun _ => [], [], fun _ => .nil, .nil⟩

/-- Every item and member on a line of its own. -/
def roomy : Layout where
  line depth := encodeChars (newline depth)
  gap := [code ' ']
  line_blank depth := by
    have ascii : ∀ c ∈ newline depth, c.toNat < 0x80 := by
      refine List.forall_mem_cons.mpr ⟨by decide, fun c hc => ?_⟩
      rw [List.eq_of_mem_replicate hc]
      decide
    rw [encodeChars_ascii ascii]
    refine List.forall_mem_map.mpr (List.forall_mem_cons.mpr ⟨by decide, fun c hc => ?_⟩)
    rw [List.eq_of_mem_replicate hc]
    decide
  gap_blank := .single (by decide)

/-- An item in front of the rest of its list. -/
def item (l : Layout) (depth : Nat) (value rest : List UInt8) : List UInt8 :=
  l.line (depth + 1) ++ (value ++ rest)

/-- A member in front of the rest of its object. -/
def member (l : Layout) (depth : Nat) (key : String) (value rest : List UInt8) : List UInt8 :=
  l.line (depth + 1) ++ (encodeChars (quote key) ++ code ':' :: (l.gap ++ (value ++ rest)))

theorem item_append (l : Layout) (depth : Nat) (value rest s : List UInt8) :
    l.item depth value rest ++ s = l.item depth value (rest ++ s) := by
  simp only [item, List.append_assoc]

theorem member_append (l : Layout) (depth : Nat) (key : String) (value rest s : List UInt8) :
    l.member depth key value rest ++ s = l.member depth key value (rest ++ s) := by
  simp only [member, List.append_assoc, List.cons_append]

end Layout

mutual

/-- A value at a depth, in a layout. -/
def printed (l : Layout) (depth : Nat) : Json → List UInt8
  | .null => encodeChars ['n', 'u', 'l', 'l']
  | .bool b => encodeChars (boolText b)
  | .num n => decimal n
  | .str s => encodeChars (quote s)
  | .arr [] => [code '[', code ']']
  | .arr (v :: rest) =>
    code '[' :: l.item depth (printed l (depth + 1) v) (printedItems l depth rest)
  | .obj [] => [code '\x7b', code '\x7d']
  | .obj ((k, v) :: rest) =>
    code '\x7b' :: l.member depth k (printed l (depth + 1) v) (printedMembers l depth rest)

/-- The items after the first, and the end of the list. -/
def printedItems (l : Layout) (depth : Nat) : List Json → List UInt8
  | [] => l.line depth ++ [code ']']
  | v :: rest => code ',' :: l.item depth (printed l (depth + 1) v) (printedItems l depth rest)

/-- The members after the first, and the end of the object. -/
def printedMembers (l : Layout) (depth : Nat) : List (String × Json) → List UInt8
  | [] => l.line depth ++ [code '\x7d']
  | (k, v) :: rest =>
    code ',' :: l.member depth k (printed l (depth + 1) v) (printedMembers l depth rest)

end

mutual

/-- **The compact form is the layout without blanks.** -/
theorem printed_tight (depth : Nat) : ∀ v : Json, printed .tight depth v = encodeChars v.compact
  | .null | .bool _ | .str _ => by simp only [printed, compact]
  | .num _ | .arr [] | .obj [] => by
    simp only [printed, compact]
    rfl
  | .arr (v :: rest) => by
    rw [printed, compact, printed_tight, printedItems_tight, encodeChars_cons, encodeChars_append]
    rfl
  | .obj ((k, v) :: rest) => by
    rw [printed, compact, printed_tight, printedMembers_tight, encodeChars_cons, encodeChars_append,
      encodeChars_cons, encodeChars_append]
    rfl

theorem printedItems_tight (depth : Nat) :
    ∀ items : List Json, printedItems .tight depth items = encodeChars (compactItems items)
  | [] => rfl
  | v :: rest => by
    rw [printedItems, compactItems, printed_tight, printedItems_tight, encodeChars_cons,
      encodeChars_append]
    rfl

theorem printedMembers_tight (depth : Nat) : ∀ members : List (String × Json),
    printedMembers .tight depth members = encodeChars (compactMembers members)
  | [] => rfl
  | (k, v) :: rest => by
    rw [printedMembers, compactMembers, printed_tight, printedMembers_tight, encodeChars_cons,
      encodeChars_append, encodeChars_cons, encodeChars_append]
    rfl

end

mutual

/-- **The indented form is the layout with a line for every item and member.** -/
theorem printed_roomy (depth : Nat) :
    ∀ v : Json, printed .roomy depth v = encodeChars (indentedAt depth v)
  | .null | .bool _ | .str _ => by simp only [printed, indentedAt]
  | .num _ | .arr [] | .obj [] => by
    simp only [printed, indentedAt]
    rfl
  | .arr (v :: rest) => by
    rw [printed, indentedAt, printed_roomy, printedItems_roomy, encodeChars_cons,
      encodeChars_append, encodeChars_append, List.append_assoc]
    rfl
  | .obj ((k, v) :: rest) => by
    rw [printed, indentedAt, printed_roomy, printedMembers_roomy, encodeChars_cons,
      encodeChars_append, encodeChars_append, encodeChars_cons, encodeChars_cons,
      encodeChars_append, List.append_assoc]
    rfl

theorem printedItems_roomy (depth : Nat) :
    ∀ items : List Json, printedItems .roomy depth items = encodeChars (indentedItems depth items)
  | [] => by
    rw [printedItems, indentedItems, encodeChars_append]
    rfl
  | v :: rest => by
    rw [printedItems, indentedItems, printed_roomy, printedItems_roomy, encodeChars_cons,
      encodeChars_append, encodeChars_append, List.append_assoc]
    rfl

theorem printedMembers_roomy (depth : Nat) : ∀ members : List (String × Json),
    printedMembers .roomy depth members = encodeChars (indentedMembers depth members)
  | [] => by
    rw [printedMembers, indentedMembers, encodeChars_append]
    rfl
  | (k, v) :: rest => by
    rw [printedMembers, indentedMembers, printed_roomy, printedMembers_roomy,
      encodeChars_cons, encodeChars_append, encodeChars_append, encodeChars_cons, encodeChars_cons,
      encodeChars_append, List.append_assoc]
    rfl

end

/-! ### What is written -/

/-- The bytes of a text between its quotes. -/
def body (s : String) : List UInt8 :=
  encodeChars (s.toList.flatMap escape)

theorem isBody_body (s : String) : IsBody (body s) := by
  obtain ⟨k, isBody, same⟩ := body_of_passQuoted (passQuoted_quoted s.toList [])
  exact (show body s = k from List.append_cancel_right same) ▸ isBody

theorem textOf?_body (s : String) : textOf? (body s) = some s := by
  rw [textOf?, body, quoted_quote]
  rfl

/-- A number in decimal is spelled by its digits. -/
theorem spelled_decimal (n : Nat) : Figures.Spelled ⟨decimal n, none, none⟩ (decimal n) := by
  obtain ⟨b, s, written, zero⟩ := decimal_cons n
  have whole : IsWhole (decimal n) := by
    refine ⟨⟨by simp [written], isDigit_decimal n⟩, fun lead => ?_⟩
    rw [written] at lead ⊢
    have first : b = code '0' := Option.some.inj lead
    rw [zero first, first]
  exact ⟨whole, [], [], .none, .none, by simp⟩

mutual

/-- What is written for a value says. -/
def tree : Json → Tree
  | .null => .null
  | .bool b => .bool b
  | .num n => .number false ⟨decimal n, none, none⟩
  | .str s => .text (body s)
  | .arr items => .list (treeItems items)
  | .obj members => .object (treeMembers members)

/-- The items of a list. -/
def treeItems : List Json → List Tree
  | [] => []
  | v :: rest => tree v :: treeItems rest

/-- The members of an object. -/
def treeMembers : List (String × Json) → List (List UInt8 × Tree)
  | [] => []
  | (k, v) :: rest => (body k, tree v) :: treeMembers rest

end

section
variable (l : Layout) (depth : Nat)

theorem printed_starts (v : Json) :
    ∃ b s, printed l depth v = b :: s ∧ Kind.of? b = some (tree v).kind := by
  match v with
  | .null | .bool true | .bool false | .str _ | .arr [] | .arr (_ :: _) | .obj [] | .obj (_ :: _) =>
    exact ⟨_, _, rfl, rfl⟩
  | .num n =>
    obtain ⟨b, s, written, -⟩ := decimal_cons n
    exact ⟨b, s, written, Kind.of?_digit (isDigit_decimal n b (written ▸ List.mem_cons_self))⟩

theorem dropSpace_printed (v : Json) (rest : List UInt8) :
    dropSpace (printed l depth v ++ rest) = printed l depth v ++ rest := by
  obtain ⟨b, s, written, kind⟩ := printed_starts l depth v
  rw [written]
  exact dropSpace_cons (Kind.isSpace_of_starts kind) _

theorem dropSpace_item (v : Json) (rest : List UInt8) :
    dropSpace (l.item depth (printed l (depth + 1) v) rest) = printed l (depth + 1) v ++ rest := by
  rw [Layout.item, dropSpace_blank (l.line_blank _), dropSpace_printed]

theorem dropSpace_member (key : String) (value rest : List UInt8) :
    dropSpace (l.member depth key value rest) =
      code '"' :: (body key ++ code '"' :: code ':' :: (l.gap ++ (value ++ rest))) := by
  rw [Layout.member, dropSpace_blank (l.line_blank _), encodeChars_quote]
  exact dropSpace_cons (by decide) _

/-- The end of a list or an object, on its own line. -/
theorem dropSpace_end {b : UInt8} (h : isSpace b = false) (rest : List UInt8) :
    dropSpace (l.line depth ++ [b] ++ rest) = b :: rest := by
  rw [List.append_assoc, dropSpace_blank (l.line_blank _)]
  exact dropSpace_cons h _

/-- A comma stands at the front. -/
theorem follows_comma (s : List UInt8) : Follows false (code ',' :: s) s :=
  dropSpace_cons (by decide) s

theorem titled_member (key : String) (value rest : List UInt8) :
    Titled (body key) (l.member depth key value rest) (l.gap ++ (value ++ rest)) :=
  ⟨isBody_body key, _, dropSpace_member l depth key value rest, dropSpace_cons (by decide) _⟩

end

mutual

/-- **Any layout of a value spells it**, with the blanks in front of it. -/
theorem spells_printed (l : Layout) (depth : Nat) {w : List UInt8} (blank : IsBlank w)
    (rest : List UInt8) : ∀ v : Json,
      Spells (.value (tree v)) (w ++ (printed l depth v ++ rest)) rest
  | .null => .null (by rw [dropSpace_blank blank]; rfl)
  | .bool true | .bool false => .bool (by rw [dropSpace_blank blank]; rfl)
  | .num n => .number (spelled_decimal n) (by rw [dropSpace_blank blank, dropSpace_printed]; rfl)
  | .str s => .text (isBody_body s) (by
      rw [dropSpace_blank blank, dropSpace_printed, printed, encodeChars_quote]
      rfl)
  | .arr [] => by
    have start : dropSpace (w ++ (printed l depth (.arr []) ++ rest)) =
        code '[' :: code ']' :: rest :=
      (dropSpace_blank blank _).trans (dropSpace_printed l depth _ rest)
    exact .list start (.noItem (dropSpace_cons (by decide) _))
  | .arr (v :: items) => by
    refine .list ?_ (.item rfl (spells_printed l (depth + 1) (l.line_blank (depth + 1))
      (printedItems l depth items ++ rest) v) (spells_items l depth rest items))
    rw [dropSpace_blank blank, dropSpace_printed, printed, List.cons_append, Layout.item_append]
    rfl
  | .obj [] => by
    have start : dropSpace (w ++ (printed l depth (.obj []) ++ rest)) =
        code '\x7b' :: code '\x7d' :: rest :=
      (dropSpace_blank blank _).trans (dropSpace_printed l depth _ rest)
    exact .object start (.noMember (dropSpace_cons (by decide) _))
  | .obj ((k, v) :: members) => by
    refine .object ?_ (.member rfl (titled_member l depth k _ _) (spells_printed l (depth + 1)
      l.gap_blank (printedMembers l depth members ++ rest) v) (spells_members l depth rest members))
    rw [dropSpace_blank blank, dropSpace_printed, printed, List.cons_append, Layout.member_append]

theorem spells_items (l : Layout) (depth : Nat) (rest : List UInt8) : ∀ items : List Json,
    Spells (.items false (treeItems items)) (printedItems l depth items ++ rest) rest
  | [] => .noItem (dropSpace_end l depth (by decide) rest)
  | v :: items => by
    rw [printedItems, List.cons_append, Layout.item_append]
    exact .item (follows_comma _) (spells_printed l (depth + 1) (l.line_blank (depth + 1))
      (printedItems l depth items ++ rest) v) (spells_items l depth rest items)

theorem spells_members (l : Layout) (depth : Nat) (rest : List UInt8) :
    ∀ members : List (String × Json),
      Spells (.members false (treeMembers members)) (printedMembers l depth members ++ rest) rest
  | [] => .noMember (dropSpace_end l depth (by decide) rest)
  | (k, v) :: members => by
    rw [printedMembers, List.cons_append, Layout.member_append]
    exact .member (follows_comma _) (titled_member l depth k _ _) (spells_printed l (depth + 1)
      l.gap_blank (printedMembers l depth members ++ rest) v) (spells_members l depth rest members)

end

/-! ### Reading a value -/

/-- **A reader gets `a` from the value `v`**, from any layout of it and whatever follows. -/
def Reads (item : Reader α) (v : Json) (a : α) : Prop :=
  ∀ (l : Layout) (depth : Nat) {w rest : List UInt8}, IsBlank w → Stops rest →
    item (w ++ (printed l depth v ++ rest)) = .ok (a, rest)

/-- What a reader makes of a value is what it gets from it. -/
theorem Decodes.reads {α : Type} {item : Reader α} {decode : Tree → Option α} {v : Json} {a : α}
    (h : Decodes item decode) (decoded : decode (tree v) = some a) : Reads item v a := by
  intro l depth w rest blank stops
  refine toOption_eq_some.mp ?_
  rw [h.agrees (spells_printed l depth blank rest v) stops, decoded]
  rfl

namespace Reads

variable {α σ : Type} {item : Reader α} {v : Json} {a : α}

/-- Without blanks in front. -/
theorem alone (h : Reads item v a) (l : Layout) (depth : Nat) {rest : List UInt8}
    (stops : Stops rest) : item (printed l depth v ++ rest) = .ok (a, rest) :=
  h l depth .nil stops

theorem text (s : String) : Reads Json.text (.str s) s :=
  Decodes.text.reads (textOf?_body s)

theorem truth (b : Bool) : Reads Json.truth (.bool b) b :=
  Decodes.truth.reads rfl

theorem natural {bound n : Nat} (small : n < bound) (bounded : bound ≤ wordBound) :
    Reads (Json.natural bound) (.num n) n := by
  refine (Decodes.natural bound).reads ?_
  rw [tree, Tree.asNatural?, value_decimal (Nat.lt_of_lt_of_le small bounded)]
  exact if_pos (decide_eq_true small)

theorem present (h : Reads item v a) (there : v ≠ .null) : Reads (optional item) v (some a) := by
  intro l depth w rest blank stops
  obtain ⟨b, s, written, kind⟩ := printed_starts l depth v
  have word : b ≠ code 'n' := by
    refine Kind.ne_of_starts kind ?_
    cases v with
    | null => exact absurd rfl there
    | _ => exact nofun
  have read := h.alone l depth stops
  rw [optional, dropSpace_blank blank, dropSpace_printed]
  rw [written, List.cons_append] at read ⊢
  simp only [word, if_false, read]
  rfl

end Reads

/-! ### Lists -/

section
variable {α : Type} {item : Reader α} {vs : List Json} {as : List α}

/-- An item stands behind a comma, or first. -/
theorem nextItem_printed (l : Layout) (depth : Nat) (v : Json) {first : Bool} {s rest : List UInt8}
    (h : Follows first s (l.item depth (printed l (depth + 1) v) rest)) :
    nextItem first s = .ok (true, printed l (depth + 1) v ++ rest) := by
  have spelled := spells_printed l (depth + 1) (l.line_blank (depth + 1)) rest v
  rw [nextItem_follows h spelled, dropSpace_item]

/-- One more item is read, and those behind it. -/
theorem items_cons {first : Bool} {s t r : List UInt8} {a : α}
    (next : nextItem first s = .ok (true, t)) (read : item t = .ok (a, r))
    (shorter : r.length < s.length) {rest : List UInt8}
    (more : items item false r = .ok (as, rest)) : items item first s = .ok (a :: as, rest) := by
  rw [items, next]
  simp only [read, shorter, if_true, more]
  rfl

theorem length_item_lt (l : Layout) (depth : Nat) (v : Json) (rest : List UInt8) :
    rest.length < (l.item depth (printed l (depth + 1) v) rest).length :=
  (spells_printed l (depth + 1) (l.line_blank (depth + 1)) rest v).length_lt

/-- The items behind the first are read up to the end of the list. -/
theorem items_printed (l : Layout) (depth : Nat) (rest : List UInt8)
    (h : List.Forall₂ (Reads item) vs as) :
    items item false (printedItems l depth vs ++ rest) = .ok (as, code ']' :: rest) := by
  induction h with
  | nil => rw [items, printedItems, nextItem_closing (dropSpace_end l depth (by decide) rest)]
  | @cons v a vs as read _ ih =>
    rw [printedItems, List.cons_append, Layout.item_append]
    exact items_cons (nextItem_printed l depth v (follows_comma _))
      (read.alone l _ (spells_items l depth rest vs).items_stop)
      (Nat.lt_succ_of_lt (length_item_lt l depth v _)) ih

/-- **A list is read item by item.** -/
theorem Reads.list (h : List.Forall₂ (Reads item) vs as) : Reads (Json.list item) (.arr vs) as := by
  intro l depth w rest blank _
  have ends : endList (code ']' :: rest) = .ok rest := rfl
  rw [Json.list, dropSpace_blank blank, dropSpace_printed]
  cases h with
  | nil =>
    have all : items item true (code ']' :: rest) = .ok ([], code ']' :: rest) := by
      rw [items, nextItem, dropSpace_cons (by decide)]
      rfl
    rw [printed, List.cons_append, List.singleton_append]
    simp only [if_true, all]
    rfl
  | @cons v a vs as read more =>
    have all := items_cons (nextItem_printed l depth v (show Follows true _ _ from rfl))
      (read.alone l _ (spells_items l depth rest vs).items_stop) (length_item_lt l depth v _)
      (items_printed l depth rest more)
    rw [printed, List.cons_append, Layout.item_append]
    simp only [if_true, all]
    rfl

end

/-! ### Records -/

/-- What a record becomes by some members: those that it knows are read into it, each once, and the
others leave it as it is. -/
inductive Filled {σ : Type} (fields : List (Field σ)) : σ → List (String × Json) → σ → Prop where
  /-- Nothing is left. -/
  | nil {r : σ} : Filled fields r [] r
  /-- The member is a field of the record, which does not have it yet. -/
  | known {r r1 r2 : σ} {k : String} {v : Json} {ms : List (String × Json)} {field : Field σ} :
      fields.find? (·.name == k) = some field → field.filled r = false →
      Reads (field.fill r) v r1 → Filled fields r1 ms r2 → Filled fields r ((k, v) :: ms) r2
  /-- The record does not know the member. -/
  | unknown {r r2 : σ} {k : String} {v : Json} {ms : List (String × Json)} :
      fields.find? (·.name == k) = none → Filled fields r ms r2 →
      Filled fields r ((k, v) :: ms) r2

section
variable {σ α : Type} {fields : List (Field σ)} {r r1 r2 : σ} {k : String} {v : Json}
  {ms : List (String × Json)} {field : Field σ}

theorem Filled.append {ms' : List (String × Json)} (h : Filled fields r ms r1)
    (h' : Filled fields r1 ms' r2) : Filled fields r (ms ++ ms') r2 := by
  induction h with
  | nil => exact h'
  | known found vacant read _ ih => exact .known found vacant read (ih h')
  | unknown found _ ih => exact .unknown found (ih h')

/-- A field that is kept in an optional place is read as what its reader gets. -/
theorem Reads.fill {item : Reader α} {a : α} {name : String} {get : σ → Option α} {set : σ → α → σ}
    (read : Reads item v a) : Reads ((Field.of name get set item).fill r) v (set r a) := by
  intro l depth w rest blank stops
  exact congrArg (Except.map _) (read l depth blank stops)

/-- The name of a member stands behind a comma, or first. -/
theorem nextKey_printed (l : Layout) (depth : Nat) {first : Bool} {s value rest : List UInt8}
    (h : Follows first s (l.member depth k value rest)) :
    nextKey first s = .ok (some k, code ':' :: (l.gap ++ (value ++ rest))) := by
  refine toOption_eq_some.mp ?_
  rw [nextKey_follows h (isBody_body k) (dropSpace_member l depth k value rest), textOf?_body]
  rfl

theorem colon_cons (s : List UInt8) : colon (code ':' :: s) = .ok s :=
  colon_ok.mpr (dropSpace_cons (by decide) s)

/-- The value of a known member is read into the record. -/
theorem member_known (l : Layout) (depth : Nat) (found : fields.find? (·.name == k) = some field)
    (vacant : field.filled r = false) (read : Reads (field.fill r) v r1) {rest : List UInt8}
    (stops : Stops rest) :
    member fields k r (code ':' :: (l.gap ++ (printed l depth v ++ rest))) = .ok (r1, rest) := by
  rw [member, found]
  simp only [vacant, Bool.false_eq_true, if_false, colon_cons]
  exact read l depth l.gap_blank stops

/-- The value of an unknown member is passed over. -/
theorem member_unknown (l : Layout) (depth : Nat) (found : fields.find? (·.name == k) = none)
    {rest : List UInt8} (stops : Stops rest) :
    member fields k r (code ':' :: (l.gap ++ (printed l depth v ++ rest))) = .ok (r, rest) := by
  rw [member, found]
  simp only [colon_cons]
  show (skip _ >>= _) = _
  rw [skip_spelled (spells_printed l depth l.gap_blank rest v) stops]
  rfl

/-- One more member is read, and those behind it. -/
theorem members_cons {first : Bool} {s t u rest : List UInt8}
    (next : nextKey first s = .ok (some k, t)) (read : member fields k r t = .ok (r1, u))
    (shorter : u.length < s.length) (more : members fields false r1 u = .ok (r2, rest)) :
    members fields first r s = .ok (r2, rest) := by
  rw [members, next]
  simp only [read, shorter, if_true, more]

theorem length_member_lt (l : Layout) (depth : Nat) (value rest : List UInt8) :
    rest.length < (l.member depth k value rest).length := by
  simp only [Layout.member, List.length_append, List.length_cons]
  omega

/-- The members behind the first are read up to the end of the object. -/
theorem members_printed (l : Layout) (depth : Nat) (rest : List UInt8) (h : Filled fields r ms r1) :
    members fields false r (printedMembers l depth ms ++ rest) = .ok (r1, code '\x7d' :: rest) := by
  induction h with
  | nil => rw [members, printedMembers, nextKey_closing (dropSpace_end l depth (by decide) rest)]
  | @known r r1 r2 k v ms field found vacant read _ ih =>
    rw [printedMembers, List.cons_append, Layout.member_append]
    exact members_cons (nextKey_printed l depth (follows_comma _))
      (member_known l _ found vacant read (spells_members l depth rest ms).members_stop)
      (Nat.lt_succ_of_lt (length_member_lt l depth _ _)) ih
  | @unknown r r2 k v ms found _ ih =>
    rw [printedMembers, List.cons_append, Layout.member_append]
    exact members_cons (nextKey_printed l depth (follows_comma _))
      (member_unknown l _ found (spells_members l depth rest ms).members_stop)
      (Nat.lt_succ_of_lt (length_member_lt l depth _ _)) ih

/-- The members of an object are read from behind its first byte. -/
theorem members_object (l : Layout) (depth : Nat) (rest : List UInt8) (h : Filled fields r ms r1) :
    ∃ t, printed l depth (.obj ms) ++ rest = code '\x7b' :: t ∧
      members fields true r t = .ok (r1, code '\x7d' :: rest) := by
  cases h with
  | nil =>
    refine ⟨code '\x7d' :: rest, rfl, ?_⟩
    rw [members, nextKey, dropSpace_cons (by decide)]
    rfl
  | @known _ r1' _ k v ms field found vacant read more =>
    refine ⟨l.member depth k (printed l (depth + 1) v) (printedMembers l depth ms ++ rest), ?_, ?_⟩
    · rw [printed, List.cons_append, Layout.member_append]
    · exact members_cons (nextKey_printed l depth (show Follows true _ _ from rfl))
        (member_known l _ found vacant read (spells_members l depth rest ms).members_stop)
        (length_member_lt l depth _ _) (members_printed l depth rest more)
  | @unknown _ _ k v ms found more =>
    refine ⟨l.member depth k (printed l (depth + 1) v) (printedMembers l depth ms ++ rest), ?_, ?_⟩
    · rw [printed, List.cons_append, Layout.member_append]
    · exact members_cons (nextKey_printed l depth (show Follows true _ _ from rfl))
        (member_unknown l _ found (spells_members l depth rest ms).members_stop)
        (length_member_lt l depth _ _) (members_printed l depth rest more)

/-- **A record is read from an object that fills it.** -/
theorem Reads.record {finish : σ → Option α} {a : α} (h : Filled fields r ms r1)
    (finished : finish r1 = some a) : Reads (Json.record fields r finish) (.obj ms) a := by
  intro l depth w rest blank _
  obtain ⟨t, written, read⟩ := members_object l depth rest h
  have ends : endObject (code '\x7d' :: rest) = .ok rest := rfl
  rw [Json.record, dropSpace_blank blank, dropSpace_printed, written]
  simp only [show code '\x7b' ≠ code '[' by decide, if_false, if_true, read, bind, Except.bind,
    finished, ends]
  rfl

end

/-- **A document is read from any layout of its value**, whatever blanks are behind it. -/
theorem Reads.document {α : Type} {item : Reader α} {v : Json} {a : α} (h : Reads item v a)
    (l : Layout) (depth : Nat) {w : List UInt8} (blank : IsBlank w) :
    Json.document item (printed l depth v ++ w) = .ok a := by
  have stops : Stops w := List.append_nil w ▸ Stops.blank blank .nil
  have ends : dropSpace w = [] := List.append_nil w ▸ dropSpace_blank blank []
  rw [Json.document, h.alone l depth stops]
  exact if_pos ends

end FlashStation.Json
