/-
# Adding vendors to filters

Vendors are added to a list of filters one after the other, each at the end and only if no filter of
the list names it yet. So the filters come first as they were, and behind them the vendors that were
named by none of them, each once, in the order in which they first appear among those that are
added. Two additions are one of both lists.

What was let through before is let through after it, and so are the devices of the vendors, but not
always. An empty list lets everything through, and stops doing so when it gets its first filter; and
a vendor that is named by a filter for one of its products gets no filter of its own, so the other
products stay outside. The filters of the settings to start from are for whole vendors, so none of
this happens to them.

Key definitions: `newVendors`, `WholeVendors`.
Key theorems: `addVendors_eq`, `passes_addVendors`, `added_vendors_pass`,
`vendor_filters_agree`.
-/
import Mathlib.Data.List.Nodup
import FlashStation.Station.State

namespace FlashStation

/-! ### The list that comes out -/

/-- The vendors that no filter names, each once, in the order in which they first appear. -/
def newVendors (filters : List UsbFilter) (vendors : List UInt16) : List UInt16 :=
  (vendors.filter fun v => v ∉ filters.map (·.vendor)).eraseDups

section
variable {filters : List UsbFilter} {vendors : List UInt16} {v : UInt16}

theorem mem_newVendors : v ∈ newVendors filters vendors ↔
    v ∈ vendors ∧ v ∉ filters.map (·.vendor) := by
  unfold newVendors
  rw [List.mem_eraseDups, List.mem_filter, decide_eq_true_iff]

/-- One more vendor among the filters. -/
theorem addVendors_cons (filters : List UsbFilter) (v : UInt16) (rest : List UInt16) :
    addVendors filters (v :: rest) =
      addVendors (if filters.any (·.vendor == v) then filters else filters ++ [.ofVendor v]) rest :=
  rfl

/-- Two lists of vendors are added one after the other as one. -/
theorem addVendors_append (filters : List UsbFilter) (a b : List UInt16) :
    addVendors filters (a ++ b) = addVendors (addVendors filters a) b :=
  List.foldl_append

/-- A vendor that the filters name is not new. -/
theorem newVendors_named (named : v ∈ filters.map (·.vendor)) (rest : List UInt16) :
    newVendors filters (v :: rest) = newVendors filters rest := by
  unfold newVendors
  rw [List.filter_cons_of_neg]
  simpa using named

/-- A vendor that no filter names is new, and what is new after it are other vendors. -/
theorem newVendors_unnamed (unnamed : v ∉ filters.map (·.vendor)) (rest : List UInt16) :
    newVendors filters (v :: rest) = v :: newVendors (filters ++ [.ofVendor v]) rest := by
  unfold newVendors
  rw [List.filter_cons_of_pos (by simpa using unnamed), List.eraseDups_cons, List.filter_filter]
  have same : rest.filter (fun w => (!w == v) && decide (w ∉ filters.map (·.vendor))) =
      rest.filter fun w => w ∉ (filters ++ [UsbFilter.ofVendor v]).map (·.vendor) := by
    apply List.filter_congr
    intro w _
    rw [Bool.eq_iff_iff]
    simp only [Bool.and_eq_true, Bool.not_eq_true', beq_eq_false_iff_ne, decide_eq_true_iff,
      List.map_append, List.map_singleton, UsbFilter.ofVendor, List.mem_append,
      List.mem_singleton, not_or]
    exact and_comm
  rw [same]

/-- **The filters stay, and those for the new vendors come behind them.** -/
theorem addVendors_eq (filters : List UsbFilter) (vendors : List UInt16) :
    addVendors filters vendors = filters ++ (newVendors filters vendors).map .ofVendor := by
  induction vendors generalizing filters with
  | nil => simp [addVendors, newVendors]
  | cons v rest ih =>
    have named_iff : filters.any (·.vendor == v) = true ↔ v ∈ filters.map (·.vendor) := by simp
    rw [addVendors_cons, ih]
    by_cases named : v ∈ filters.map (·.vendor)
    · rw [if_pos (named_iff.mpr named), newVendors_named named]
    · have unnamed : ¬ filters.any (·.vendor == v) = true := fun h => named (named_iff.mp h)
      rw [if_neg unnamed, newVendors_unnamed named, List.map_cons, List.append_assoc,
        List.singleton_append]

theorem map_vendor_ofVendor (vendors : List UInt16) :
    (vendors.map UsbFilter.ofVendor).map (·.vendor) = vendors := by
  rw [List.map_map]
  exact List.map_id _

/-- The filters name the vendors that they named before and those that were added. -/
theorem mem_addVendors (filters : List UsbFilter) (vendors : List UInt16) (v : UInt16) :
    v ∈ (addVendors filters vendors).map (·.vendor) ↔
      v ∈ filters.map (·.vendor) ∨ v ∈ vendors := by
  rw [addVendors_eq, List.map_append, List.mem_append, map_vendor_ofVendor, mem_newVendors]
  by_cases named : v ∈ filters.map (·.vendor) <;> simp [named]

/-- If no vendor is named twice, none is named twice afterwards. -/
theorem nodup_addVendors (once : (filters.map (·.vendor)).Nodup) (vendors : List UInt16) :
    ((addVendors filters vendors).map (·.vendor)).Nodup := by
  induction vendors generalizing filters with
  | nil => exact once
  | cons v rest ih =>
    rw [addVendors_cons]
    apply ih
    split
    · exact once
    · rename_i unnamed
      have new : v ∉ filters.map (·.vendor) := by simpa using unnamed
      rw [List.map_append, List.map_singleton, ← List.concat_eq_append]
      exact .concat new once

end

/-! ### What is let through -/

/-- None of the filters asks for a certain product. -/
def WholeVendors (filters : List UsbFilter) : Prop :=
  ∀ f ∈ filters, f.product = none

/-- Filters for whole vendors, if there are any, let a device through if they name its vendor. -/
theorem WholeVendors.passes_iff {filters : List UsbFilter} (h : WholeVendors filters)
    (some? : filters ≠ []) (vid pid : Option UInt16) :
    passesFilters filters vid pid = true ↔ ∃ v, vid = some v ∧ v ∈ filters.map (·.vendor) := by
  have each : ∀ f ∈ filters, (f.matches? vid pid = true ↔ vid = some f.vendor) := fun f hf => by
    simp [UsbFilter.matches?, h f hf]
  simp only [passesFilters, List.isEmpty_iff, Bool.or_eq_true, some?, false_or, List.any_eq_true,
    List.mem_map]
  constructor
  · rintro ⟨f, hf, matched⟩
    exact ⟨f.vendor, (each f hf).mp matched, f, hf, rfl⟩
  · rintro ⟨_, rfl, f, hf, rfl⟩
    exact ⟨f, hf, (each f hf).mpr rfl⟩


theorem WholeVendors.addVendors {filters : List UsbFilter} (h : WholeVendors filters)
    (vendors : List UInt16) : WholeVendors (addVendors filters vendors) := by
  induction vendors generalizing filters with
  | nil => exact h
  | cons w rest ih =>
    rw [addVendors_cons]
    refine ih ?_
    split
    · exact h
    · intro f hf
      rcases List.mem_append.mp hf with old | new
      · exact h f old
      · rw [List.mem_singleton.mp new]
        rfl


/-- What a filter for a whole vendor lets through. -/
theorem matches_ofVendor (v : UInt16) (vid pid : Option UInt16) :
    (UsbFilter.ofVendor v).matches? vid pid = true ↔ vid = some v := by
  simp [UsbFilter.matches?, UsbFilter.ofVendor]

/-- A filter lets through only devices of its vendor. -/
theorem UsbFilter.vendor_of_matches {f : UsbFilter} {vid pid : Option UInt16}
    (h : f.matches? vid pid = true) : vid = some f.vendor := by
  unfold UsbFilter.matches? at h
  simpa using (Bool.and_eq_true_iff.mp h).1

/-- A filter that lets a device through of which only the vendor is known is for the whole
vendor. -/
theorem UsbFilter.eq_ofVendor {f : UsbFilter} {v : UInt16} (h : f.matches? (some v) none = true) :
    f = .ofVendor v := by
  have vendor := UsbFilter.vendor_of_matches h
  obtain ⟨vendor', product⟩ := f
  obtain rfl : v = vendor' := Option.some.inj vendor
  cases product with
  | none => rfl
  | some want => simp [UsbFilter.matches?] at h

/-- **What is let through after vendors were added**: everything if there is no filter at all, what
one of the filters let through before, and the devices of the new vendors. -/
theorem passes_addVendors (filters : List UsbFilter) (vendors : List UInt16)
    (vid pid : Option UInt16) :
    passesFilters (addVendors filters vendors) vid pid = true ↔
      (filters = [] ∧ vendors = []) ∨ (∃ f ∈ filters, f.matches? vid pid = true) ∨
        ∃ v ∈ vendors, vid = some v ∧ v ∉ filters.map (·.vendor) := by
  have new : (∃ f ∈ (newVendors filters vendors).map UsbFilter.ofVendor,
      f.matches? vid pid = true) ↔ ∃ v ∈ vendors, vid = some v ∧ v ∉ filters.map (·.vendor) := by
    constructor
    · rintro ⟨f, member, passes⟩
      obtain ⟨v, hv, rfl⟩ := List.mem_map.mp member
      obtain ⟨added, unnamed⟩ := mem_newVendors.mp hv
      exact ⟨v, added, (matches_ofVendor v vid pid).mp passes, unnamed⟩
    · rintro ⟨v, added, own, unnamed⟩
      have member := List.mem_map_of_mem (f := UsbFilter.ofVendor)
        (mem_newVendors.mpr ⟨added, unnamed⟩)
      exact ⟨_, member, (matches_ofVendor v vid pid).mpr own⟩
  have none : addVendors filters vendors = [] ↔ filters = [] ∧ vendors = [] := by
    cases filters with
    | cons f rest => simp [addVendors_eq]
    | nil =>
      cases vendors with
      | nil => simp [addVendors_eq, newVendors]
      | cons v rest => simp [addVendors_eq, newVendors, List.eraseDups_cons]
  rw [passesFilters, Bool.or_eq_true, List.isEmpty_iff, none, List.any_eq_true]
  simp only [addVendors_eq, List.mem_append, or_and_right, exists_or, new]

/-- **When adding vendors only adds.** After vendors were added to the settings, a device passes if
there is no filter at all, if one of the filters from before lets it through, or if it is of an
added vendor that none of them names. So exactly the devices that passed before and those of the
added vendors pass, if and only if there were filters or nothing is added, and every added vendor
that was named already was named as a whole. Otherwise something is shut out: the first filter shuts
out what passed because there was none, and the filter for one product of a vendor keeps its other
products outside. -/
theorem added_vendors_pass (c : Config) (vendors : List UInt16) :
    let filters := (c.withVendors vendors).filters
    (∀ vid pid, passesFilters filters vid pid = true ↔
      (c.filters = [] ∧ vendors = []) ∨ (∃ f ∈ c.filters, f.matches? vid pid = true) ∨
        ∃ v ∈ vendors, vid = some v ∧ ∀ f ∈ c.filters, f.vendor ≠ v) ∧
    ((∀ vid pid, passesFilters filters vid pid = true ↔
        passesFilters c.filters vid pid = true ∨ ∃ v ∈ vendors, vid = some v) ↔
      (c.filters = [] → vendors = []) ∧
        ∀ v ∈ vendors, (∃ f ∈ c.filters, f.vendor = v) → .ofVendor v ∈ c.filters) := by
  intro filters
  have passes : ∀ vid pid, passesFilters filters vid pid = true ↔
      (c.filters = [] ∧ vendors = []) ∨ (∃ f ∈ c.filters, f.matches? vid pid = true) ∨
        ∃ v ∈ vendors, vid = some v ∧ ∀ f ∈ c.filters, f.vendor ≠ v := by
    intro vid pid
    have unnamed (v : UInt16) : v ∉ c.filters.map (·.vendor) ↔ ∀ f ∈ c.filters, f.vendor ≠ v := by
      simp [eq_comm]
    rw [show filters = addVendors c.filters vendors from rfl, passes_addVendors]
    simp only [unnamed]
  have before (vid pid : Option UInt16) : passesFilters c.filters vid pid = true ↔
      c.filters = [] ∨ ∃ f ∈ c.filters, f.matches? vid pid = true := by
    rw [passesFilters, Bool.or_eq_true, List.isEmpty_iff, List.any_eq_true]
  refine ⟨passes, fun adds => ⟨fun empty => ?_, fun v added named => ?_⟩, ?_⟩
  · -- a device of which nothing is known passes only where there is no filter
    have still := (adds none none).mpr (.inl ((before none none).mpr (.inl empty)))
    rcases (passes none none).mp still with ⟨_, nothing⟩ | ⟨f, _, matched⟩ | ⟨_, _, own, _⟩
    · exact nothing
    · cases f.vendor_of_matches matched
    · cases own
  · -- a device of the vendor that is of no product passes only a filter for the whole vendor
    have comes := (adds (some v) none).mpr (.inr ⟨v, added, rfl⟩)
    obtain ⟨f, member, own⟩ := named
    rcases (passes (some v) none).mp comes with ⟨none, _⟩ | ⟨g, there, matched⟩ | ⟨w, _, same, free⟩
    · rw [none] at member
      cases member
    · rwa [← g.eq_ofVendor matched]
    · obtain rfl : v = w := Option.some.inj same
      exact absurd own (free f member)
  · rintro ⟨some?, whole⟩ vid pid
    rw [passes, before]
    constructor
    · rintro (⟨none, _⟩ | matched | ⟨v, added, own, _⟩)
      · exact .inl (.inl none)
      · exact .inl (.inr matched)
      · exact .inr ⟨v, added, own⟩
    · rintro ((none | matched) | ⟨v, added, own⟩)
      · exact .inl ⟨none, some? none⟩
      · exact .inr (.inl matched)
      · by_cases named : ∃ f ∈ c.filters, f.vendor = v
        · exact .inr (.inl ⟨_, whole v added named, (matches_ofVendor v vid pid).mpr own⟩)
        · have free : ∀ f ∈ c.filters, f.vendor ≠ v := fun f member same => named ⟨f, member, same⟩
          exact .inr (.inr ⟨v, added, own, free⟩)

/-- The first filter shuts out what passed because there was none. -/
example : passesFilters ({ Config.default with filters := [] }.withVendors [0x067B]).filters
    (some 0x303A) (some 0x1001) = false := by decide

/-- A vendor with a filter for one of its products gets no other one. -/
example :
    ({ Config.default with filters := [⟨0x303A, some 0x1001⟩] }.withVendors [0x303A]).filters =
      [⟨0x303A, some 0x1001⟩] := by decide

/-! ### The settings to start from -/

/-- The kind of a vendor is known if and only if the vendor is in the table of kinds. -/
theorem BoardKind.isKnown_ofVendor (vid : UInt16) :
    (BoardKind.ofVendor vid).isKnown = true ↔ vid ∈ knownVendors.map (·.1) := by
  have kinds : ∀ v ∈ knownVendors, v.2.isKnown = true := by decide
  unfold ofVendor
  cases found : knownVendors.find? (·.1 == vid) with
  | none =>
    refine ⟨nofun, fun member => ?_⟩
    obtain ⟨v, hv, same⟩ := List.mem_map.mp member
    exact absurd (beq_iff_eq.mpr same) (List.find?_eq_none.mp found v hv)
  | some v =>
    have member := List.mem_of_find?_eq_some found
    have same : v.1 = vid := by simpa using List.find?_some found
    exact ⟨fun _ => List.mem_map.mpr ⟨v, member, same⟩, fun _ => kinds v member⟩

/-- **Two ways to the same filters.** Adding vendors to the settings to start from gives the filters
that are made for these vendors at once: first the known vendors as they stand in the table, then
the vendors that are not in it, each at the place where it first appears. Every vendor has one
filter if it is known or was added and none otherwise, no filter asks for a product, and a device
passes if and only if its vendor is of a known kind or was added. And to add vendors twice, to
whatever settings, is to add both lists at once. -/
theorem vendor_filters_agree (ids : List UInt16) :
    let known := knownVendors.map (·.1)
    let filters := vendorFilters ids
    (Config.default.withVendors ids).filters = filters ∧
    filters = known.map .ofVendor ++ ((ids.filter (· ∉ known)).eraseDups).map .ofVendor ∧
    (∀ v, (filters.map (·.vendor)).count v = if v ∈ known ∨ v ∈ ids then 1 else 0) ∧
    (∀ f ∈ filters, f.product = none) ∧
    (∀ vid pid, passesFilters filters vid pid = true ↔
      ∃ v, vid = some v ∧ ((BoardKind.ofVendor v).isKnown = true ∨ v ∈ ids)) ∧
    ∀ (c : Config) (a b : List UInt16),
      (c.withVendors a).withVendors b = c.withVendors (a ++ b) := by
  intro known filters
  have table : (known.map UsbFilter.ofVendor).map (·.vendor) = known := map_vendor_ofVendor known
  have listed : filters = addVendors (known.map .ofVendor) ids := by
    rw [show known.map UsbFilter.ofVendor = knownVendors.map fun v => .ofVendor v.1 from
      List.map_map ..]
    rfl
  have named (v : UInt16) : v ∈ filters.map (·.vendor) ↔ v ∈ known ∨ v ∈ ids := by
    rw [listed, mem_addVendors, table]
  have once : (filters.map (·.vendor)).Nodup := by
    rw [listed]
    apply nodup_addVendors
    rw [table]
    decide
  have whole : WholeVendors filters := by
    rw [listed]
    apply WholeVendors.addVendors
    unfold WholeVendors
    decide
  have some? : filters ≠ [] := by
    intro none
    have espressif := (named 0x303A).mpr (.inl (by decide))
    rw [none] at espressif
    cases espressif
  refine ⟨?_, ?_, fun v => ?_, whole, fun vid pid => ?_, fun c a b => ?_⟩
  · calc (Config.default.withVendors ids).filters
        = addVendors (addVendors (knownVendors.map fun v => .ofVendor v.1) []) ids := rfl
      _ = addVendors (knownVendors.map fun v => .ofVendor v.1) ([] ++ ids) :=
        (addVendors_append _ [] ids).symm
      _ = filters := rfl
  · rw [listed, addVendors_eq, newVendors, table]
  · rw [once.count, if_congr (named v) rfl rfl]
  · rw [whole.passes_iff some?]
    simp only [named, BoardKind.isKnown_ofVendor]
    rfl
  · have both := addVendors_append c.filters a b
    simp only [Config.withVendors, both]

end FlashStation
