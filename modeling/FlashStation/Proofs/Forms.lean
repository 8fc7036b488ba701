/-
# The members of a record, in whatever order

A record whose fields keep apart from each other comes to the same by its members in whatever order
they are, whether or not there are others among them that it does not know. A field that can do
without its value may be left out as well as be `null`. And each field holds what the one member of
its name says, or nothing if there is none.

Key definitions: `Json.Slot.Apart`, `Json.Form`, `Json.named`.
Key theorems: `Json.Form.object_perm`, `Json.Form.object_unknown`, `Json.Form.object_null`,
`Json.Form.fold_named`.
-/
import Mathlib.Data.List.Forall2
import Mathlib.Data.List.Pairwise
import FlashStation.Proofs.Decoding

namespace FlashStation.Json

/-! ### Fields that keep apart -/

/-- Two fields of a record have different names, and neither takes notice of the other. -/
structure Slot.Apart {σ : Type} (a b : Slot σ) : Prop where
  name : a.field.name ≠ b.field.name
  comm : ∀ r t u, (a.take r t).bind (b.take · u) = (b.take r u).bind (a.take · t)
  left : ∀ {r t r'}, a.take r t = some r' → b.field.filled r' = b.field.filled r
  right : ∀ {r t r'}, b.take r t = some r' → a.field.filled r' = a.field.filled r

theorem Slot.Apart.symm {σ : Type} {a b : Slot σ} (h : a.Apart b) : b.Apart a :=
  ⟨h.name.symm, fun r t u => (h.comm r u t).symm, h.right, h.left⟩

instance {σ : Type} : Std.Symm (Slot.Apart (σ := σ)) := ⟨fun _ _ => Slot.Apart.symm⟩

/-- Fields in different places of a record keep apart. -/
theorem Slot.of_apart {σ α β : Type} {name name' : String} {get : σ → Option α} {set : σ → α → σ}
    {get' : σ → Option β} {set' : σ → β → σ} {item : Reader α} {item' : Reader β}
    {decode : Tree → Option α} {decode' : Tree → Option β} {h : Decodes item decode}
    {h' : Decodes item' decode'} {law : ∀ r a, get (set r a) = some a}
    {law' : ∀ r b, get' (set' r b) = some b} (names : name ≠ name')
    (comm : ∀ r a b, set' (set r a) b = set (set' r b) a)
    (left : ∀ r a, get' (set r a) = get' r) (right : ∀ r b, get (set' r b) = get r) :
    (Slot.of name get set law h).Apart (.of name' get' set' law' h') where
  name := names
  comm r t u := by
    show ((decode t).map (set r)).bind (fun r => (decode' u).map (set' r)) =
      ((decode' u).map (set' r)).bind (fun r => (decode t).map (set r))
    cases decode t <;> cases decode' u <;> simp [comm]
  left {r t r'} taken := by
    obtain ⟨a, -, rfl⟩ := Option.map_eq_some_iff.mp taken
    exact congrArg Option.isSome (left r a)
  right {r t r'} taken := by
    obtain ⟨b, -, rfl⟩ := Option.map_eq_some_iff.mp taken
    exact congrArg Option.isSome (right r b)

theorem Slot.offer_eq_some {σ : Type} {slot : Slot σ} {r r' : σ} {t : Tree}
    (h : slot.offer r t = some r') :
    slot.field.filled r = false ∧ slot.field.filled r' = true ∧ slot.take r t = some r' := by
  unfold Slot.offer at h
  split_ifs at h with filled
  exact ⟨(Bool.not_eq_true _).mp filled, slot.settles h, h⟩

/-- What two fields that keep apart take one after the other. -/
theorem Slot.Apart.offers {σ : Type} {a b : Slot σ} (h : a.Apart b) (r : σ) (t u : Tree) :
    (a.offer r t).bind (b.offer · u) =
      if a.field.filled r ∨ b.field.filled r then none else (a.take r t).bind (b.take · u) := by
  unfold Slot.offer
  by_cases fa : a.field.filled r = true
  · simp only [fa, if_true, true_or, Option.bind_none]
  · have after (r' : σ) (taken : a.take r t = some r') :
        (if b.field.filled r' then none else b.take r' u) =
          if b.field.filled r then none else b.take r' u := by
      rw [h.left taken]
    rw [if_neg fa, Option.bind_congr after]
    by_cases fb : b.field.filled r = true
    · simp only [fb, if_true, or_true, Option.bind_fun_none]
    · simp only [fa, fb, or_self, if_false, Bool.false_eq_true]

/-- A list may be exchanged for one that has, for an item, another that is read alike. -/
theorem Slot.take_list {σ β : Type} {name : String} {get : σ → Option (List β)}
    {set : σ → List β → σ} {law : ∀ r as, get (set r as) = some as} {item : Reader β}
    {decode : Tree → Option β} {h : Decodes (Json.list item) (Tree.asList? decode)}
    {front back : List Tree} {t u : Tree}
    (same : decode t = decode u) (r : σ) :
    (Slot.of name get set law h).take r (.list (front ++ t :: back)) =
      (Slot.of name get set law h).take r (.list (front ++ u :: back)) := by
  have items : (front ++ t :: back).mapM decode = (front ++ u :: back).mapM decode := by
    simp only [List.mapM_append, List.mapM_cons, same]
  exact congrArg (Option.map (set r)) items

/-- A record: its fields, which keep apart, the empty one to start from, in which none is filled,
and what it is when its members are read. -/
structure Form (σ α : Type) where
  /-- The fields. -/
  slots : List (Slot σ)
  /-- The record that has nothing yet. -/
  empty : σ
  /-- What the record is, if it has what it must have. -/
  finish : σ → Option α
  apart : slots.Pairwise Slot.Apart
  vacant : ∀ slot ∈ slots, slot.field.filled empty = false

/-- The values of the members of a name, in their order. -/
def named (ms : List (List UInt8 × Tree)) (key : String) : List Tree :=
  (ms.filter fun m => textOf? m.1 = some key).map (·.2)

theorem named_cons (m : List UInt8 × Tree) (ms : List (List UInt8 × Tree)) (key : String) :
    named (m :: ms) key =
      if textOf? m.1 = some key then m.2 :: named ms key else named ms key := by
  unfold named
  split_ifs with name <;> simp [name]

theorem named_append (ms ms' : List (List UInt8 × Tree)) (key : String) :
    named (ms ++ ms') key = named ms key ++ named ms' key := by
  rw [named, List.filter_append, List.map_append]
  rfl

theorem named_perm {ms ms' : List (List UInt8 × Tree)} (h : ms.Perm ms') (key : String) :
    (named ms key).Perm (named ms' key) :=
  (h.filter _).map _

/-- Some values are listed under a name: nothing if there is no member of that name, and otherwise
what `made` relates to the items of its only member, one by one. -/
def Lists {β : Type} (ms : List (List UInt8 × Tree)) (key : String) (made : Tree → β → Prop)
    (as : List β) : Prop :=
  (named ms key = [] ∧ as = []) ∨ ∃ ts, named ms key = [.list ts] ∧ List.Forall₂ made ts as

/-- What is made of the items may be said of each, which is a document of its own. -/
theorem Lists.imp {β : Type} {ms : List (List UInt8 × Tree)} {key : String}
    {made made' : Tree → β → Prop} {as : List β} {s : List UInt8} (h : Lists ms key made as)
    (doc : IsDocument (.object ms) s)
    (wider : ∀ t s, IsDocument t s → ∀ a, made t a → made' t a) : Lists ms key made' as := by
  rcases h with none | ⟨ts, only, items⟩
  · exact .inl none
  · refine .inr ⟨ts, only, ?_⟩
    have there : Tree.list ts ∈ named ms key := only ▸ List.mem_singleton_self _
    obtain ⟨m, kept, value⟩ := List.mem_map.mp there
    obtain ⟨s', list⟩ := doc.members m (List.mem_filter.mp kept).1
    rw [value] at list
    have documents := list.items
    clear only there kept value list
    induction items with
    | nil => exact .nil
    | cons first _ ih =>
      obtain ⟨⟨s', document⟩, documents⟩ := List.forall_mem_cons.mp documents
      exact .cons (wider _ s' document _ first) (ih documents)

theorem mapM_eq_some {β : Type} {decode : Tree → Option β} {ts : List Tree} {as : List β}
    (h : ts.mapM decode = some as) : List.Forall₂ (fun t a => decode t = some a) ts as := by
  induction ts generalizing as with
  | nil =>
    cases h
    exact .nil
  | cons t ts ih =>
    rw [List.mapM_cons] at h
    obtain ⟨a, first, h⟩ := Option.bind_eq_some_iff.mp h
    obtain ⟨as', more, h⟩ := Option.bind_eq_some_iff.mp h
    cases h
    exact .cons first (ih more)

/-- Steps that may change places come to the same in any order. -/
theorem foldlM_perm {σ β : Type} {f : σ → β → Option σ}
    (comm : ∀ r a b, (f r a).bind (f · b) = (f r b).bind (f · a)) {l l' : List β} (h : l.Perm l')
    (r : σ) : l.foldlM f r = l'.foldlM f r := by
  induction h generalizing r with
  | nil => rfl
  | cons b _ ih =>
    rw [List.foldlM_cons, List.foldlM_cons]
    exact congrArg (Option.bind (f r b)) (funext ih)
  | swap a b l =>
    simp only [List.foldlM_cons]
    show (f r b).bind (fun r => (f r a).bind _) = (f r a).bind (fun r => (f r b).bind _)
    rw [← Option.bind_assoc, ← Option.bind_assoc, comm]
  | trans _ _ ih ih' => exact (ih r).trans (ih' r)

namespace Form

variable {σ α : Type} (F : Form σ α) {slot : Slot σ} {k : List UInt8} {key : String} {t u : Tree}
  {ms ms' : List (List UInt8 × Tree)} {r r' : σ}

/-- How the record is read. -/
def reader : Reader α :=
  Json.record (F.slots.map (·.field)) F.empty F.finish

/-- What the record is by a value. -/
def decode : Tree → Option α :=
  Tree.asRecord? F.slots F.empty F.finish

theorem decodes : Decodes F.reader F.decode :=
  .record F.slots F.empty F.finish

theorem decode_object : F.decode (.object ms) =
    (ms.foldlM (Slot.fill F.slots) F.empty).bind F.finish := rfl

variable {F} in
theorem mem_of_find? (h : Slot.find? F.slots key = some slot) : slot ∈ F.slots :=
  List.mem_of_find?_eq_some h

variable {F} in
theorem name_of_find? (h : Slot.find? F.slots key = some slot) : slot.field.name = key := by
  have same := List.find?_some h
  exact eq_of_beq same

/-- A field is found by its name. -/
theorem find?_slot (h : slot ∈ F.slots) : Slot.find? F.slots slot.field.name = some slot := by
  cases found : Slot.find? F.slots slot.field.name with
  | none => exact absurd (beq_self_eq_true _) (List.find?_eq_none.mp found slot h)
  | some other =>
    by_contra different
    exact (F.apart.forall (mem_of_find? found) h (mt (congrArg some) different)).name
      (name_of_find? found)

/-- A member of the name of a field offers its value to that field. -/
theorem fill_slot (h : slot ∈ F.slots) (name : textOf? k = some slot.field.name) (r : σ) :
    Slot.fill F.slots r (k, t) = slot.offer r t := by
  rw [Slot.fill, name, Option.bind_some, Slot.put, F.find?_slot h]

variable {F} in
/-- Two values of fields may change places, even of one field, which takes only one. -/
theorem offer_comm {a b : Slot σ} (ha : a ∈ F.slots) (hb : b ∈ F.slots) (r : σ) (t u : Tree) :
    (a.offer r t).bind (b.offer · u) = (b.offer r u).bind (a.offer · t) := by
  by_cases same : a = b
  · subst same
    -- whichever is first fills the field
    have once (t u : Tree) : (a.offer r t).bind (a.offer · u) = none := by
      rw [Option.bind_eq_none_iff]
      intro r' offered
      exact if_pos (Slot.offer_eq_some offered).2.1
    rw [once, once]
  · have apart := F.apart.forall ha hb same
    rw [apart.offers, apart.symm.offers, apart.comm]
    exact if_congr Or.comm rfl rfl

/-- The values of two names may change places. -/
theorem put_comm (r : σ) (key key' : String) (t u : Tree) :
    (Slot.put F.slots r key t).bind (Slot.put F.slots · key' u) =
      (Slot.put F.slots r key' u).bind (Slot.put F.slots · key t) := by
  unfold Slot.put
  cases found : Slot.find? F.slots key with
  | none =>
    cases Slot.find? F.slots key' with
    | none => rfl
    | some b => simp only [Option.bind_some, Option.bind_fun_some]
  | some a =>
    cases found' : Slot.find? F.slots key' with
    | none => simp only [Option.bind_some, Option.bind_fun_some]
    | some b => exact offer_comm (mem_of_find? found) (mem_of_find? found') r t u

theorem fill_comm (r : σ) (m m' : List UInt8 × Tree) :
    (Slot.fill F.slots r m).bind (Slot.fill F.slots · m') =
      (Slot.fill F.slots r m').bind (Slot.fill F.slots · m) := by
  unfold Slot.fill
  cases textOf? m.1 with
  | none => cases textOf? m'.1 <;> simp
  | some key =>
    cases textOf? m'.1 with
    | none => simp
    | some key' => exact F.put_comm r key key' m.2 m'.2

/-- **The order of the members of an object does not matter.** -/
theorem object_perm (h : ms.Perm ms') : F.decode (.object ms) = F.decode (.object ms') := by
  rw [decode_object, decode_object, foldlM_perm F.fill_comm h]

/-- **A member that is not known does not matter**, whatever its value. -/
theorem object_unknown (name : textOf? k = some key)
    (unknown : key ∉ F.slots.map (·.field.name)) :
    F.decode (.object ((k, u) :: ms)) = F.decode (.object ms) := by
  have none : Slot.find? F.slots key = none := by
    refine List.find?_eq_none.mpr fun slot h same => unknown ?_
    exact List.mem_map.mpr ⟨slot, h, eq_of_beq same⟩
  have kept : Slot.fill F.slots F.empty (k, u) = some F.empty := by
    simp only [Slot.fill, name, Option.bind_some, Slot.put, none]
  rw [decode_object, decode_object, List.foldlM_cons, kept]
  rfl

/-- A member may be exchanged for one of the same name that its field makes the same of. -/
theorem object_congr (h : slot ∈ F.slots) (name : textOf? k = some slot.field.name)
    (same : ∀ r, slot.take r t = slot.take r u) :
    F.decode (.object ((k, t) :: ms)) = F.decode (.object ((k, u) :: ms)) := by
  have alike : Slot.fill F.slots F.empty (k, t) = Slot.fill F.slots F.empty (k, u) := by
    rw [F.fill_slot h name, F.fill_slot h name, Slot.offer, Slot.offer, same]
  rw [decode_object, decode_object, List.foldlM_cons, List.foldlM_cons, alike]

/-! ### What is in a field -/

/-- One member fills the field of its name and no other. -/
theorem filled_put (h : slot ∈ F.slots) (put : Slot.put F.slots r key t = some r') :
    if key = slot.field.name then slot.offer r t = some r'
    else slot.field.filled r' = slot.field.filled r := by
  unfold Slot.put at put
  split_ifs with name
  · rwa [name, F.find?_slot h] at put
  · cases found : Slot.find? F.slots key with
    | none =>
      rw [found] at put
      exact Option.some.inj put ▸ rfl
    | some other =>
      rw [found] at put
      have member := mem_of_find? found
      have different : other ≠ slot := by
        rintro rfl
        exact name (name_of_find? found).symm
      exact (F.apart.forall member h different).left (Slot.offer_eq_some put).2.2

/-- A field is filled by the members of its name. -/
theorem filled_fold (h : slot ∈ F.slots) (fold : ms.foldlM (Slot.fill F.slots) r = some r') :
    slot.field.filled r' = (slot.field.filled r || !(named ms slot.field.name).isEmpty) := by
  induction ms generalizing r with
  | nil =>
    cases fold
    exact (Bool.or_false _).symm
  | cons m ms ih =>
    obtain ⟨r1, filled, fold⟩ := Option.bind_eq_some_iff.mp fold
    obtain ⟨key, name, put⟩ := Option.bind_eq_some_iff.mp filled
    have first := F.filled_put h put
    rw [ih fold]
    by_cases same : key = slot.field.name
    · rw [if_pos same] at first
      rw [named_cons, if_pos (same ▸ name), (Slot.offer_eq_some first).2.1]
      simp
    · rw [if_neg same] at first
      rw [named_cons, if_neg (by simpa [name] using same), first]

/-- Any member may as well be the last. -/
theorem fold_last {m : List UInt8 × Tree} (member : m ∈ ms)
    (fold : ms.foldlM (Slot.fill F.slots) r = some r') :
    ∃ others before, ms.Perm (others ++ [m]) ∧
      others.foldlM (Slot.fill F.slots) r = some before ∧ Slot.fill F.slots before m = some r' := by
  obtain ⟨front, back, rfl⟩ := List.append_of_mem member
  have last : (front ++ m :: back).Perm ((front ++ back) ++ [m]) :=
    List.perm_middle.trans (List.perm_append_singleton m (front ++ back)).symm
  rw [foldlM_perm F.fill_comm last, List.foldlM_append] at fold
  obtain ⟨before, others, fold⟩ := Option.bind_eq_some_iff.mp fold
  rw [List.foldlM_cons] at fold
  obtain ⟨r2, filled, same⟩ := Option.bind_eq_some_iff.mp fold
  obtain rfl : r2 = r' := Option.some.inj same
  exact ⟨front ++ back, before, last, others, filled⟩

/-- **A field holds what the one member of its name says**, or nothing if there is none. -/
theorem fold_named (h : slot ∈ F.slots) (fold : ms.foldlM (Slot.fill F.slots) F.empty = some r) :
    (named ms slot.field.name = [] ∧ slot.field.filled r = false) ∨
      ∃ t r', named ms slot.field.name = [t] ∧ slot.take r' t = some r := by
  have filled := F.filled_fold h fold
  rw [F.vacant slot h, Bool.false_or] at filled
  cases values : named ms slot.field.name with
  | nil => exact .inl ⟨rfl, by rw [filled, values]; rfl⟩
  | cons t others =>
    have there : t ∈ named ms slot.field.name := values ▸ List.mem_cons_self
    obtain ⟨m, kept, -⟩ := List.mem_map.mp there
    obtain ⟨member, name⟩ := List.mem_filter.mp kept
    replace name := of_decide_eq_true name
    obtain ⟨others, before, last, rest, fill⟩ := F.fold_last member fold
    rw [F.fill_slot h name] at fill
    obtain ⟨free, -, taken⟩ := Slot.offer_eq_some fill
    have alone : named others slot.field.name = [] := by
      have same := F.filled_fold h rest
      rw [F.vacant slot h, free, Bool.false_or] at same
      simpa using same.symm
    have all : (named ms slot.field.name).Perm [m.2] := by
      refine (named_perm last _).trans (.of_eq ?_)
      rw [named_append, alone, named_cons, if_pos name]
      rfl
    rw [values, List.perm_singleton] at all
    exact .inr ⟨m.2, before, all, taken⟩

/-- **A field that is a list holds the items of the one member of its name**, in their order. -/
theorem fold_list {β : Type} {name : String} {get : σ → Option (List β)} {set : σ → List β → σ}
    {law : ∀ r as, get (set r as) = some as} {item : Reader β} {decode : Tree → Option β}
    {h : Decodes (Json.list item) (Tree.asList? decode)} (slot : .of name get set law h ∈ F.slots)
    (fold : ms.foldlM (Slot.fill F.slots) F.empty = some r) :
    Lists ms name (fun t a => decode t = some a) ((get r).getD []) := by
  rcases F.fold_named slot fold with ⟨none, free⟩ | ⟨t, r', only, taken⟩
  · have nothing : get r = .none :=
      Option.isNone_iff_eq_none.mp (Option.isSome_eq_false_iff.mp free)
    exact .inl ⟨none, by rw [nothing]; rfl⟩
  · obtain ⟨as, items, rfl⟩ := Option.map_eq_some_iff.mp taken
    rw [law]
    cases t with
    | list ts => exact .inr ⟨ts, only, mapM_eq_some items⟩
    | _ => cases items

/-- A field can do without its value: `null` comes to the same as nothing. -/
def Spares (slot : Slot σ) : Prop :=
  ∀ r, slot.field.filled r = false → ∃ r', slot.take r .null = some r' ∧ F.finish r' = F.finish r

/-- **A member that a field can do without may be left out or `null`.** -/
theorem object_null (h : slot ∈ F.slots) (spares : F.Spares slot)
    (name : textOf? k = some slot.field.name) (absent : named ms slot.field.name = []) :
    F.decode (.object ((k, .null) :: ms)) = F.decode (.object ms) := by
  rw [F.object_perm (List.perm_append_singleton (k, Tree.null) ms).symm, decode_object,
    decode_object, List.foldlM_append]
  cases fold : ms.foldlM (Slot.fill F.slots) F.empty with
  | none => rfl
  | some r =>
    have free : slot.field.filled r = false := by
      rw [F.filled_fold h fold, F.vacant slot h, absent]
      rfl
    obtain ⟨r', taken, same⟩ := spares r free
    have offered : slot.offer r .null = some r' := (if_neg (by rw [free]; nofun)).trans taken
    show (([(k, Tree.null)] : List _).foldlM (Slot.fill F.slots) r).bind F.finish = F.finish r
    rw [List.foldlM_cons, F.fill_slot h name, offered, ← same]
    rfl

/-- An optional field can do without its value if the record can do without that field. -/
theorem spares_optional {β : Type} {name : String} {get : σ → Option (Option β)}
    {set : σ → Option β → σ} {law : ∀ r a, get (set r a) = some a} {item : Reader β}
    {decode : Tree → Option β} {h : Decodes (Json.optional item) (Tree.orNull? decode)}
    (without : ∀ r, get r = none → F.finish (set r none) = F.finish r) :
    F.Spares (.of name get set law h) := by
  intro r free
  have nothing : get r = none :=
    Option.isNone_iff_eq_none.mp (Option.isSome_eq_false_iff.mp free)
  exact ⟨set r none, rfl, without r nothing⟩

end Form

end FlashStation.Json
