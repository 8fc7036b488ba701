/-
# How much of a file a report shows

A report says how many bytes of a file are written and how many there are, each a number of 64 bits.
What is recorded and told is the part in whole percent, but its product is cut at the largest number
of 64 bits. So the part is right as long as a hundred times the written bytes, or a hundred times
all bytes, is such a number; beyond that it may be too small, and a file that is so large is never
shown as complete.

Key definitions: `wholePercent`.
Key theorems: `percent_whole`, `percent_le_whole`, `percent_whole_iff`, `percent_complete_iff`,
`Stretch.report_runs`, `report_share`.
-/
import FlashStation.Proofs.Progress

namespace FlashStation

open Station StationOp

/-- The part of a file that is written, in whole percent, over all numbers. -/
def wholePercent (written total : Nat) : Nat :=
  if total = 0 then 100 else min (100 * written / total) 100

variable {written total : UInt64}

/-! ### The product is cut -/

/-- What is written, times a hundred, when it is cut. -/
theorem percent_eq (h : total.toNat ≠ 0) :
    percent written total = min (min (100 * written.toNat) largestWord / total.toNat) 100 := by
  have some : total ≠ 0 := fun none => h (by rw [none]; rfl)
  rw [percent, if_neg some, Nat.mul_comm]

theorem wholePercent_eq (h : total.toNat ≠ 0) :
    wholePercent written.toNat total.toNat = min (100 * written.toNat / total.toNat) 100 :=
  if_neg h

theorem wholePercent_empty (h : total.toNat = 0) :
    wholePercent written.toNat total.toNat = 100 :=
  if_pos h

theorem percent_empty (h : total.toNat = 0) : percent written total = 100 :=
  if_pos (UInt64.toNat_inj.mp h)

/-- As long as the product is a number of 64 bits, the part is right. -/
theorem percent_whole (fits : 100 * written.toNat ≤ largestWord) :
    percent written total = wholePercent written.toNat total.toNat := by
  by_cases empty : total.toNat = 0
  · exact (percent_empty empty).trans (wholePercent_empty empty).symm
  · rw [percent_eq empty, wholePercent_eq empty, Nat.min_eq_left fits]

/-- Beyond that, the part is the one of the largest number. -/
theorem percent_cut (empty : total.toNat ≠ 0) (cut : largestWord ≤ 100 * written.toNat) :
    percent written total = min (largestWord / total.toNat) 100 := by
  rw [percent_eq empty, Nat.min_eq_right cut]

/-- The part is never too large. -/
theorem percent_le_whole (written total : UInt64) :
    percent written total ≤ wholePercent written.toNat total.toNat := by
  by_cases empty : total.toNat = 0
  · exact Nat.le_of_eq ((percent_empty empty).trans (wholePercent_empty empty).symm)
  · rw [percent_eq empty, wholePercent_eq empty]
    have cut : min (100 * written.toNat) largestWord / total.toNat ≤
        100 * written.toNat / total.toNat := Nat.div_le_div_right (Nat.min_le_left _ _)
    omega

/-- A part is all of the file if the file fits a hundred times. -/
theorem hundred_le_div {n : Nat} (h : total.toNat ≠ 0) :
    100 ≤ n / total.toNat ↔ 100 * total.toNat ≤ n :=
  Nat.le_div_iff_mul_le (Nat.pos_of_ne_zero h)

/-- **When the part is right**: the product is a number of 64 bits, or the file is small enough to
be shown as complete, or what is cut makes no difference. -/
theorem percent_whole_iff (written total : UInt64) :
    percent written total = wholePercent written.toNat total.toNat ↔
      100 * written.toNat ≤ largestWord ∨ 100 * total.toNat ≤ largestWord ∨
        largestWord / total.toNat = 100 * written.toNat / total.toNat := by
  by_cases fits : 100 * written.toNat ≤ largestWord
  · exact iff_of_true (percent_whole fits) (.inl fits)
  by_cases empty : total.toNat = 0
  · have small : 100 * total.toNat ≤ largestWord := empty ▸ Nat.zero_le _
    exact iff_of_true ((percent_empty empty).trans (wholePercent_empty empty).symm)
      (.inr (.inl small))
  · have cut : largestWord ≤ 100 * written.toNat := Nat.le_of_not_le fits
    have less : largestWord / total.toNat ≤ 100 * written.toNat / total.toNat :=
      Nat.div_le_div_right cut
    have complete := hundred_le_div (n := largestWord) empty
    rw [percent_cut empty cut, wholePercent_eq empty, ← complete]
    omega

/-- **A file that is written is shown as complete** only if a hundred times its size is a number of
64 bits. -/
theorem percent_complete_iff (size : UInt64) :
    percent size size = 100 ↔ 100 * size.toNat ≤ largestWord := by
  by_cases fits : 100 * size.toNat ≤ largestWord
  · refine iff_of_true ?_ fits
    rw [percent_whole fits]
    by_cases empty : size.toNat = 0
    · exact wholePercent_empty empty
    · rw [wholePercent_eq empty, Nat.mul_div_cancel _ (Nat.pos_of_ne_zero empty), Nat.min_self]
  · have empty : size.toNat ≠ 0 := fun none => fits (none ▸ Nat.zero_le _)
    have short := (hundred_le_div (n := largestWord) empty).not.mpr fits
    rw [percent_cut empty (Nat.le_of_not_le fits)]
    omega

/-! ### A report -/

/-- The floor when a report has counted. -/
def Floor.shows (f : Floor) (share : Nat) : Floor :=
  { f with desk := { f.desk with progress := share } }

/-- What happens in a report that counts: the part is kept and told. -/
def counting (f : Floor) (share : Nat) : List Event :=
  [.does (.current f.desk.generation) true f, .does .read f.desk f,
    .does (.write (f.shows share).desk) () f, .does (.progress share) () (f.shows share)]

/-- A report on behalf of the record's generation counts, and there is no other way for it to
run. -/
theorem Stretch.report_runs {f f' : Floor} {es : List Event} {q : Program Station Unit} :
    Stretch (reportProgress f.desk.generation written total) f es f' q ↔
      es = counting f (percent written total) ∧ f' = f.shows (percent written total) ∧
        q = .done () := by
  have counts {es : List Event} {f' : Floor} {q : Program Station Unit}
      (h : Stretch (reportProgress f.desk.generation written total) f es f' q) :
      es = counting f (percent written total) ∧ f' = f.shows (percent written total) ∧
        q = .done () := by
    have done : q = .done () := by
      obtain ⟨_, _, rfl, h1⟩ := Stretch.does_inv (.current _) h rfl
      simp only [StationOp.settle, beq_self_eq_true, Program.bind_def] at h1
      obtain ⟨_, rfl, h2⟩ := Stretch.read_inv h1
      obtain ⟨_, rfl, h3⟩ := Stretch.write_inv h2
      obtain ⟨_, _, rfl, h4⟩ := Stretch.does_inv (.progress _) h3 rfl
      exact (Stretch.done_inv h4).2.2
    cases h.reports with
    | late other => exact absurd rfl other
    | counts _ _ hf =>
      subst hf
      exact ⟨rfl, rfl, done⟩
  constructor
  · exact counts
  · rintro ⟨rfl, rfl, rfl⟩
    -- it runs in some way, so in this one
    have some := Stretch.advance (obliging default .closed)
      (reportProgress f.desk.generation written total) f
    obtain ⟨events, floor, rest⟩ := counts some
    rw [events, floor, rest] at some
    exact some

namespace Traffic

/-- **What a report of the loader comes to**, for all numbers of bytes it may tell while it writes
for the record's generation: one part is kept and told to the caller. It is the part of the file in
whole percent as long as a hundred times the written bytes or a hundred times all bytes is a number
of 64 bits; beyond that it may be less. -/
theorem report_share {config : Config} {t : Traffic} {i : Nat} {c : Call} {loader : Loader}
    {payload : Payload} {compress : Bool}
    {next : Except ProtocolFault Unit → Program Station Result} (hc : t.calls[i]? = some c)
    (hw : c.rest = .call (.writeFlash loader payload compress t.floor.desk.generation) next)
    (written total : UInt64) :
    ∃ es share, Step config t i es ⟨t.floor.shows share, t.calls⟩ ∧
      (∀ es' f' q,
        Stretch (reportProgress t.floor.desk.generation written total) t.floor es' f' q ↔
          es' = es ∧ f' = t.floor.shows share ∧ q = .done ()) ∧
      heard es = [share] ∧ (t.floor.shows share).desk.progress = share ∧
      (total.toNat = 0 → share = 100) ∧
      (total.toNat ≠ 0 →
        share = min (min (100 * written.toNat) largestWord / total.toNat) 100) ∧
      share ≤ wholePercent written.toNat total.toNat ∧
      (share = wholePercent written.toNat total.toNat ↔
        100 * written.toNat ≤ largestWord ∨ 100 * total.toNat ≤ largestWord ∨
          largestWord / total.toNat = 100 * written.toNat / total.toNat) ∧
      (written = total → (share = 100 ↔ 100 * total.toNat ≤ largestWord)) := by
  have runs : Stretch (reportProgress t.floor.desk.generation written total) t.floor
      (counting t.floor (percent written total)) (t.floor.shows (percent written total))
      (.done ()) :=
    Stretch.report_runs.mpr ⟨rfl, rfl, rfl⟩
  refine ⟨_, percent written total, .reports hc hw written total runs,
    fun _ _ _ => Stretch.report_runs, rfl, rfl, percent_empty, percent_eq,
    percent_le_whole written total, percent_whole_iff written total, ?_⟩
  rintro rfl
  exact percent_complete_iff written

/-- All of the largest file is written, and a hundredth is shown. -/
theorem largest_file_told :
    ∃ t i es share, Reach .default t ∧ Step .default t i es ⟨t.floor.shows share, t.calls⟩ ∧
      heard es = [share] ∧ share = 1 ∧ wholePercent largestWord largestWord = 100 := by
  have reach : Reach .default .writing := (Reach.joined.begin _ _).carryOn _ _ _
  have look : Traffic.writing.calls[1]?.map (fun c => (c.tag,
      match c.rest with
      | .call op _ => op.isWrite
      | .done _ => false)) = some (some Traffic.writing.floor.desk.generation, true) := by
    decide +kernel
  obtain ⟨c, hc, look⟩ := Option.map_eq_some_iff.mp look
  obtain ⟨ht, writes⟩ := Prod.mk.inj look
  cases hr : c.rest with
  | done r => simp [hr] at writes
  | call op next =>
    have pending : c.pending = true := by rw [Call.pending, hr]
    cases op with
    | writeFlash loader payload compress g =>
      have own := (reach.orderly.waits c (List.mem_of_getElem? hc) pending).speaks hr g rfl
      obtain rfl := Option.some.inj (ht.symm.trans own)
      obtain ⟨es, share, step, _, told, _, _, value, _⟩ :=
        @report_share .default _ _ _ _ _ _ _ hc hr 0xFFFFFFFFFFFFFFFF 0xFFFFFFFFFFFFFFFF
      exact ⟨_, _, es, share, reach, step, told, value (by decide), by decide⟩
    | _ => simp [hr, StationOp.isWrite] at writes

end Traffic

end FlashStation
