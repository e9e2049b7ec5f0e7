import BindingTables.Text.Case

/-! What the case tables come to: the upper case of a character starts with one that is its own
upper case and has no underscore that was not there, and on ASCII characters both cases are the
usual ones. -/

namespace BindingTables.Text

variable {c : Char} {cs : List Char} {m n : Nat} {r : CaseRun}

/-- A property of the ASCII characters can be checked one by one. -/
theorem forall_ascii {P : Char → Prop} (h : ∀ n < 128, P (Char.ofNat n)) (hc : c.toNat < 128) :
    P c := by
  have hn := h c.toNat hc
  rwa [Char.ofNat_toNat] at hn

/-- The code points from `low` to `high`, or every other one of them; a single one counts as
either. -/
structure Stretch where
  low : Nat
  high : Nat
  alternates : Bool

namespace Stretch

variable {s t : Stretch}

def Has (s : Stretch) (n : Nat) : Prop :=
  s.low ≤ n ∧ n ≤ s.high ∧ (s.alternates = true → (n - s.low) % 2 = 0)

def single (n : Nat) : Stretch := ⟨n, n, true⟩

/-- One lies below the other, or the two interleave. -/
def apart (s t : Stretch) : Bool :=
  s.high.blt t.low || t.high.blt s.low || s.alternates && t.alternates && (s.low + t.low) % 2 == 1

theorem has_single (n : Nat) : (single n).Has n := by simp [Has, single]

theorem not_has_of_apart (h : s.apart t = true) (hs : s.Has n) : ¬ t.Has n := by
  intro ht
  obtain ⟨hlow, hhigh, heven⟩ := hs
  obtain ⟨hlow', hhigh', heven'⟩ := ht
  simp only [apart, Bool.or_eq_true, Bool.and_eq_true, Nat.blt_eq, beq_iff_eq] at h
  rcases h with (hbelow | habove) | ⟨⟨hs, ht⟩, hodd⟩
  · omega
  · omega
  · have := heven hs
    have := heven' ht
    omega

end Stretch

namespace CaseRun

def sources : CaseRun → Stretch
  | (first, last, step, _) => ⟨first, last, step == 2 || first == last⟩

def images : CaseRun → Stretch
  | (first, last, step, image) => ⟨image, image + (last - first), step == 2 || first == last⟩

theorem has_of_map? (h : r.map? n = some m) : r.sources.Has n ∧ r.images.Has m := by
  obtain ⟨first, last, step, image⟩ := r
  rw [map?, Option.ite_none_right_eq_some, Option.some.injEq] at h
  obtain ⟨⟨hfirst, hlast, hstep⟩, rfl⟩ := h
  have heven : (step == 2 || first == last) = true → (n - first) % 2 = 0 := by
    rw [Bool.or_eq_true, beq_iff_eq, beq_iff_eq]
    rintro (rfl | rfl)
    · exact hstep
    · omega
  refine ⟨⟨hfirst, hlast, heven⟩, ?_, ?_, ?_⟩
  · exact Nat.le_add_right image (n - first)
  · exact Nat.add_le_add_left (Nat.sub_le_sub_right hlast first) image
  · intro halt
    rw [images, Nat.add_sub_cancel_left]
    exact heven halt

end CaseRun

/-- The code points that the tables give an upper case of their own. -/
def raised : List Stretch :=
  upperRuns.map CaseRun.sources ++ upperExpansions.map fun e => .single e.1

/-- The code points that such an upper case starts with. -/
def capitals : List Stretch :=
  upperRuns.map CaseRun.images ++ upperExpansions.flatMap fun e => (e.2.take 1).map .single

theorem capitals_apart_raised : capitals.all (fun s => raised.all s.apart) = true := by
  decide +kernel

theorem capitals_apart_underscore : capitals.all (·.apart (.single '_'.toNat)) = true := by
  decide +kernel

theorem expansions_tail : ∀ e ∈ upperExpansions, e.2 ≠ [] ∧ ∀ n ∈ e.2.tail, Char.ofNat n ≠ '_' := by
  decide +kernel

theorem mem_raised_of_run (h : r ∈ upperRuns) : r.sources ∈ raised :=
  List.mem_append_left _ (List.mem_map_of_mem h)

/-- A character without an upper case of its own is left as it is, and any other is replaced by one
that starts with a capital. -/
theorem caseMap_upper_cases (c : Char) :
    caseMap upperRuns upperExpansions c = [c] ∨
      ∃ s ∈ capitals, ∃ m ds, caseMap upperRuns upperExpansions c = Char.ofNat m :: ds ∧
        s.Has m ∧ '_' ∉ ds := by
  rw [caseMap]
  cases hrun : upperRuns.findSome? (CaseRun.map? c.toNat) with
  | some m =>
    obtain ⟨r, hr, hm⟩ := List.exists_of_findSome?_eq_some hrun
    have hmem : r.images ∈ capitals := List.mem_append_left _ (List.mem_map_of_mem hr)
    exact .inr ⟨r.images, hmem, m, [], rfl, (CaseRun.has_of_map? hm).2, List.not_mem_nil⟩
  | none =>
    cases hlookup : upperExpansions.lookup c.toNat with
    | none => exact .inl rfl
    | some ns =>
      obtain ⟨before, after, hsplit, -⟩ := List.lookup_eq_some_iff.mp hlookup
      have he : (c.toNat, ns) ∈ upperExpansions := by simp [hsplit]
      obtain ⟨hne, htail⟩ := expansions_tail _ he
      obtain ⟨m, ms, rfl⟩ := List.exists_cons_of_ne_nil hne
      have hmem : Stretch.single m ∈ capitals := by
        apply List.mem_append_right
        exact List.mem_flatMap.mpr ⟨_, he, List.mem_singleton_self _⟩
      refine .inr ⟨.single m, hmem, m, ms.map Char.ofNat, rfl, Stretch.has_single m, ?_⟩
      intro hscore
      obtain ⟨k, hk, hscore⟩ := List.mem_map.mp hscore
      exact htail k hk hscore

theorem caseMap_of_not_raised (h : ∀ s ∈ raised, ¬ s.Has c.toNat) :
    caseMap upperRuns upperExpansions c = [c] := by
  have hrun : upperRuns.findSome? (CaseRun.map? c.toNat) = none := by
    rw [List.findSome?_eq_none_iff]
    intro r hr
    rw [Option.eq_none_iff_forall_ne_some]
    intro m hm
    exact h r.sources (mem_raised_of_run hr) (CaseRun.has_of_map? hm).1
  have hlookup : upperExpansions.lookup c.toNat = none := by
    rw [List.lookup_eq_none_iff]
    intro e he
    have hmem : Stretch.single e.1 ∈ raised :=
      List.mem_append_right _ (List.mem_map_of_mem (f := fun e => Stretch.single e.1) he)
    have hne : c.toNat ≠ e.1 := by
      intro heq
      apply h _ hmem
      rw [heq]
      exact Stretch.has_single e.1
    simpa using hne
  rw [caseMap, hrun, hlookup]

theorem upper_of_ascii (h : c.toNat < 128) : upper c = [c.toUpper] := if_pos h

theorem lower_of_ascii (h : c.toNat < 128) : lower c = [c.toLower] := if_pos h

theorem upper_of_not_raised (h : ∀ s ∈ raised, ¬ s.Has c.toNat) : upper c = [c] := by
  by_cases hascii : c.toNat < 128
  · have hsmall : ¬ (0x61 ≤ c.toNat ∧ c.toNat ≤ 0x7A) := by
      intro hletter
      apply h _ (mem_raised_of_run (r := (0x61, 0x7A, 1, 0x41)) List.mem_cons_self)
      exact ⟨hletter.1, hletter.2, by simp [CaseRun.sources]⟩
    have hself : ¬ (0x61 ≤ c.toNat ∧ c.toNat ≤ 0x7A) → c.toUpper = c :=
      forall_ascii (P := fun c => ¬ (0x61 ≤ c.toNat ∧ c.toNat ≤ 0x7A) → c.toUpper = c)
        (by decide) hascii
    rw [upper_of_ascii hascii, hself hsmall]
  · rw [upper, if_neg hascii, caseMap_of_not_raised h]

/-- A number that is no code point stands for the character zero. -/
theorem toNat_ofNat_or (m : Nat) : (Char.ofNat m).toNat = m ∨ Char.ofNat m = '\x00' := by
  by_cases hvalid : m.isValidChar
  · left
    rw [Char.ofNat, dif_pos hvalid]
    rfl
  · exact .inr (dif_neg hvalid)

theorem upper_capital {s : Stretch} (hs : s ∈ capitals) (hm : s.Has m) :
    upper (Char.ofNat m) = [Char.ofNat m] := by
  rcases toNat_ofNat_or m with hcode | hzero
  · apply upper_of_not_raised
    intro t ht
    rw [hcode]
    have hall := List.all_eq_true.mp capitals_apart_raised s hs
    exact Stretch.not_has_of_apart (List.all_eq_true.mp hall t ht) hm
  · rw [hzero]
    rfl

theorem capital_ne_underscore {s : Stretch} (hs : s ∈ capitals) (hm : s.Has m) :
    Char.ofNat m ≠ '_' := by
  intro hscore
  rcases toNat_ofNat_or m with hcode | hzero
  · have hapart := List.all_eq_true.mp capitals_apart_underscore s hs
    apply Stretch.not_has_of_apart hapart hm
    rw [← hcode, hscore]
    exact Stretch.has_single _
  · rw [hzero] at hscore
    cases hscore

/-- All that respelling asks of the upper case of a character. -/
theorem exists_upper (hc : c ≠ '_') :
    ∃ d ds, upper c = d :: ds ∧ upper d = [d] ∧ '_' ∉ d :: ds := by
  by_cases hascii : c.toNat < 128
  · have hcapital : c ≠ '_' → upper c.toUpper = [c.toUpper] ∧ '_' ≠ c.toUpper :=
      forall_ascii (P := fun c => c ≠ '_' → upper c.toUpper = [c.toUpper] ∧ '_' ≠ c.toUpper)
        (by decide) hascii
    obtain ⟨hself, hscore⟩ := hcapital hc
    exact ⟨c.toUpper, [], upper_of_ascii hascii, hself, by simpa using hscore⟩
  · have hupper : upper c = caseMap upperRuns upperExpansions c := if_neg hascii
    rw [hupper]
    rcases caseMap_upper_cases c with hself | ⟨s, hs, m, ds, hmap, hm, hds⟩
    · exact ⟨c, [], hself, by rw [hupper, hself], by simpa using Ne.symm hc⟩
    · refine ⟨Char.ofNat m, ds, hmap, upper_capital hs hm, ?_⟩
      rw [List.mem_cons, not_or]
      exact ⟨Ne.symm (capital_ne_underscore hs hm), hds⟩

theorem hasCase_of_ascii (h : c.toNat < 128) : hasCase c = c.isAlpha :=
  forall_ascii (P := fun c => hasCase c = c.isAlpha) (by decide) h

theorem lowerText_of_ascii (h : ∀ c ∈ cs, c.toNat < 128) : lowerText cs = cs.map Char.toLower := by
  suffices hafter : ∀ before, lowerAfter before cs = cs.map Char.toLower from hafter []
  induction cs with
  | nil => exact fun _ => rfl
  | cons c cs ih =>
    intro before
    rw [List.forall_mem_cons] at h
    have hsigma : c ≠ 'Σ' := by
      rintro rfl
      exact absurd h.1 (by decide)
    rw [lowerAfter, if_neg hsigma, lower_of_ascii h.1, ih h.2]
    rfl

end BindingTables.Text
