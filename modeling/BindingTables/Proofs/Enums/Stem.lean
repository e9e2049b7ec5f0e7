import Mathlib.Data.List.DropRight
import Mathlib.Data.List.Induction
import Mathlib.Order.Bounds.Basic
import BindingTables.Proofs.Text.Bytes
import BindingTables.Resolve.Stem

/-! The stem of an enum is the longest that its first value allows: it ends in an underscore, and at
each of its bytes at most one of the values departs from it. -/

namespace BindingTables

open BindingTables.Text

namespace Stem

variable {first q : String} {rest others : List String} {values : List (List UInt8)}
  {candidate : List UInt8} {front : List Char} {b : UInt8} {i n : Nat}

/-- The value is too short for place `i`, or has another byte there than the first one. -/
def Departs (first : String) (i : Nat) (value : String) : Prop :=
  (bytes value).length < i + 1 ∨ (bytes value)[i]? ≠ (bytes first)[i]?

instance : DecidablePred (Departs first i) := fun _ => inferInstanceAs (Decidable (_ ∨ _))

/-- At each of the first `n` places at most one of the values departs from the first. -/
def Shared (first : String) (rest : List String) (n : Nat) : Prop :=
  ∀ i < n, (first :: rest).countP (Departs first i ·) ≤ 1

/-- The text does not end in a word: it is empty or ends in an underscore. -/
def Whole (cs : List Char) : Prop := cs = [] ∨ '_' ∈ cs.getLast?

/-- `q` begins the first value and ends in no word, and at each place of it at most one of the
values departs. -/
structure Admissible (first : String) (rest : List String) (q : String) : Prop where
  leads : q.toList <+: first.toList
  whole : Whole q.toList
  shared : Shared first rest (bytes q).length

/-- The first `n` bytes are none, or end in an underscore. -/
def EndsWord (bs : List UInt8) (n : Nat) : Prop :=
  ∀ i, n = i + 1 → bs[i]? = some '_'.toNat.toUInt8

/-- How many bytes of the first value its stem is cut to. -/
def cut (first : String) (rest : List String) : Nat :=
  wholeWords ((bytes first).take (agreement ((first :: rest).map bytes) 0 (bytes first)))

theorem ofValues_cons (first : String) (rest : List String) :
    ofValues (first :: rest) = .ofList (takeBytes (cut first rest) first.toList) := rfl

/-- The scan goes on as long as at most one value departs from the candidate. -/
theorem le_agreement_iff : n ≤ agreement values i candidate ↔ n ≤ candidate.length ∧
    ∀ j < n, ∀ b ∈ candidate[j]?, outliers values (i + j) b ≤ 1 := by
  induction candidate generalizing i n with
  | nil =>
    simp only [agreement, List.length_nil, Nat.le_zero]
    constructor
    · rintro rfl
      exact ⟨rfl, by simp⟩
    · exact And.left
  | cons b candidate ih =>
    cases n with
    | zero => simp
    | succ n =>
      have hsplit : (∀ j < n + 1, ∀ b' ∈ (b :: candidate)[j]?, outliers values (i + j) b' ≤ 1)
          ↔ outliers values i b ≤ 1 ∧
            ∀ j < n, ∀ b' ∈ candidate[j]?, outliers values (i + 1 + j) b' ≤ 1 := by
        rw [Nat.forall_lt_succ_left]
        simp [Nat.add_assoc, Nat.add_comm 1]
      rw [agreement, hsplit, List.length_cons, Nat.add_le_add_iff_right]
      split
      · rename_i hb
        rw [Nat.add_le_add_iff_right, ih]
        simp [hb]
      · rename_i hb
        simp [hb]

/-- The outliers that the scan counts are the values that depart from the first. -/
theorem outliers_eq (hb : (bytes first)[i]? = some b) :
    outliers ((first :: rest).map bytes) i b = (first :: rest).countP (Departs first i ·) := by
  rw [outliers, List.countP_map]
  apply List.countP_congr
  intro v _
  rw [decide_eq_true_eq, Departs, hb]
  simp only [Function.comp_apply, bne_iff_ne]
  constructor
  · exact Or.inr
  · rintro (hshort | hne)
    · rw [List.getElem?_eq_none (by omega)]
      exact nofun
    · exact hne

theorem le_agreement_iff_shared :
    n ≤ agreement ((first :: rest).map bytes) 0 (bytes first) ↔
      n ≤ (bytes first).length ∧ Shared first rest n := by
  rw [le_agreement_iff]
  apply and_congr_right
  intro hn
  constructor
  · intro h j hj
    have hb := List.getElem?_eq_getElem (Nat.lt_of_lt_of_le hj hn)
    have hout := h j hj _ hb
    rwa [Nat.zero_add, outliers_eq hb] at hout
  · intro h j hj b hb
    rw [Nat.zero_add, outliers_eq hb]
    exact h j hj

theorem endsWord_append (hn : n ≤ candidate.length) (bs : List UInt8) :
    EndsWord (candidate ++ bs) n ↔ EndsWord candidate n := by
  refine forall_congr' fun i => imp_congr_right fun hi => ?_
  rw [List.getElem?_append_left (by omega)]

theorem wholeWords_concat (candidate : List UInt8) (b : UInt8) : wholeWords (candidate ++ [b]) =
    if b = '_'.toNat.toUInt8 then candidate.length + 1 else wholeWords candidate := by
  rw [wholeWords, List.reverse_concat, List.dropWhile_cons]
  split
  · rename_i hb
    rw [if_neg (by simpa using hb), wholeWords]
  · rename_i hb
    rw [if_pos (by simpa using hb)]
    simp

/-- Cutting back goes to the last underscore and no further. -/
theorem isGreatest_wholeWords (candidate : List UInt8) :
    IsGreatest {n | n ≤ candidate.length ∧ EndsWord candidate n} (wholeWords candidate) := by
  induction candidate using List.reverseRecOn with
  | nil => exact ⟨⟨Nat.le_refl 0, nofun⟩, fun n hn => hn.1⟩
  | append_singleton candidate b ih =>
    obtain ⟨⟨hle, hends⟩, hgreatest⟩ := ih
    rw [wholeWords_concat]
    split
    · rename_i hb
      refine ⟨⟨by simp, ?_⟩, fun n hn => by simpa using hn.1⟩
      intro i hi
      obtain rfl : candidate.length = i := by omega
      simp [hb]
    · rename_i hb
      refine ⟨⟨by simp; omega, (endsWord_append hle [b]).mpr hends⟩, ?_⟩
      rintro n ⟨hn, hw⟩
      rw [List.length_append, List.length_singleton] at hn
      -- The last place is none to cut behind, so the places before it decide.
      have hne : n ≠ candidate.length + 1 := by
        rintro rfl
        have hlast := hw candidate.length rfl
        rw [List.getElem?_concat_length, Option.some.injEq] at hlast
        exact hb hlast
      have hn : n ≤ candidate.length := by omega
      exact hgreatest ⟨hn, (endsWord_append hn [b]).mp hw⟩

/-- The stem is cut to as many bytes as a stem may have. -/
theorem isGreatest_cut (first : String) (rest : List String) :
    IsGreatest {n | n ≤ (bytes first).length ∧ EndsWord (bytes first) n ∧ Shared first rest n}
      (cut first rest) := by
  have hagree {n : Nat} : n ≤ agreement ((first :: rest).map bytes) 0 (bytes first) ↔
      n ≤ (bytes first).length ∧ Shared first rest n := le_agreement_iff_shared
  rw [cut]
  generalize agreement ((first :: rest).map bytes) 0 (bytes first) = agreed at hagree ⊢
  have hagreed : agreed ≤ (bytes first).length := (hagree.mp (Nat.le_refl agreed)).1
  have hcommon {n : Nat} (hn : n ≤ agreed) :
      EndsWord ((bytes first).take agreed) n ↔ EndsWord (bytes first) n := by
    have happend := endsWord_append (n := n) (by rwa [List.length_take_of_le hagreed])
      ((bytes first).drop agreed)
    rw [List.take_append_drop] at happend
    exact happend.symm
  obtain ⟨⟨hle, hends⟩, hgreatest⟩ := isGreatest_wholeWords ((bytes first).take agreed)
  rw [List.length_take_of_le hagreed] at hle
  obtain ⟨hlength, hshared⟩ := hagree.mp hle
  refine ⟨⟨hlength, (hcommon hle).mp hends, hshared⟩, ?_⟩
  rintro n ⟨hn, hw, hs⟩
  have hlow := hagree.mpr ⟨hn, hs⟩
  exact hgreatest ⟨by rwa [List.length_take_of_le hagreed], (hcommon hlow).mpr hw⟩

theorem shared_perm (h : rest.Perm others) : Shared first rest n ↔ Shared first others n := by
  simp only [Shared, (h.cons first).countP_eq]

/-- What the stem is cut to is decided by counts alone, so the order of the values is not. -/
theorem cut_perm (h : rest.Perm others) : cut first rest = cut first others := by
  have hcut := isGreatest_cut first rest
  simp only [shared_perm h] at hcut
  exact hcut.unique (isGreatest_cut first others)

/-- One other value is one outlier at most. -/
theorem shared_of_length_le (h : rest.length ≤ 1) (hn : n ≤ (bytes first).length) :
    Shared first rest n := by
  intro i hi
  have hself : ¬ Departs first i first := by
    rw [Departs, not_or]
    exact ⟨by omega, fun hne => hne rfl⟩
  rw [List.countP_cons_of_neg (by simpa using hself)]
  exact Nat.le_trans List.countP_le_length h

/-- Where the bytes may be cut, the characters can be. -/
theorem exists_front (hn : n ≤ (bytes first).length) (hw : EndsWord (bytes first) n) :
    ∃ front back, first.toList = front ++ back ∧ byteSize front = n ∧ Whole front := by
  cases n with
  | zero => exact ⟨[], first.toList, rfl, rfl, .inl rfl⟩
  | succ i =>
    obtain ⟨front, back, hfirst, hsize⟩ := exists_append_of_bytes (by decide) (hw i rfl)
    refine ⟨front ++ ['_'], back, by simp [hfirst], ?_, .inr (by simp)⟩
    rw [byteSize_append, hsize]
    rfl

theorem takeBytes_byteSize (front back : List Char) :
    takeBytes (byteSize front) (front ++ back) = front := by
  induction front with
  | nil =>
    cases back with
    | nil => rfl
    | cons c back => exact if_neg (Nat.not_le.mpr c.utf8Size_pos)
  | cons c front ih =>
    rw [List.cons_append, takeBytes, byteSize, if_pos (Nat.le_add_right _ _),
      Nat.add_sub_cancel_left, ih]

/-- The stem is what stands before the place that the first value is cut at. -/
theorem exists_stem (first : String) (rest : List String) : ∃ back,
    first.toList = (ofValues (first :: rest)).toList ++ back ∧
      byteSize (ofValues (first :: rest)).toList = cut first rest ∧
      Whole (ofValues (first :: rest)).toList := by
  obtain ⟨hle, hends, -⟩ := (isGreatest_cut first rest).1
  obtain ⟨front, back, hfirst, hsize, hwhole⟩ := exists_front hle hends
  have hstem : (ofValues (first :: rest)).toList = front := by
    rw [ofValues_cons, String.toList_ofList, hfirst, ← hsize, takeBytes_byteSize]
  rw [hstem]
  exact ⟨back, hfirst, hsize, hwhole⟩

theorem length_bytes_ofValues (first : String) (rest : List String) :
    (bytes (ofValues (first :: rest))).length = cut first rest := by
  obtain ⟨_, _, hsize, _⟩ := exists_stem first rest
  rw [length_bytes, hsize]

theorem admissible_ofValues (first : String) (rest : List String) :
    Admissible first rest (ofValues (first :: rest)) := by
  obtain ⟨back, hfirst, -, hwhole⟩ := exists_stem first rest
  refine ⟨⟨back, hfirst.symm⟩, hwhole, ?_⟩
  rw [length_bytes_ofValues]
  exact (isGreatest_cut first rest).1.2.2

theorem endsWord_of_admissible (h : Admissible first rest q) :
    EndsWord (bytes first) (bytes q).length := by
  intro i hi
  rw [length_bytes] at hi
  rcases h.whole with hnil | hlast
  · rw [hnil] at hi
    cases hi
  · obtain ⟨more, hq⟩ := h.leads
    obtain ⟨init, hinit⟩ := List.getLast?_eq_some_iff.mp hlast
    have hfirst : first.toList = init ++ '_' :: more := by
      rw [← hq, hinit]
      simp
    have hsize : byteSize init = i := by
      rw [hinit, byteSize_append] at hi
      exact Nat.succ.inj hi
    rw [← hsize]
    exact getElem?_bytes (by decide) hfirst

/-- Whatever may be the stem begins it. -/
theorem prefix_of_admissible (h : Admissible first rest q) :
    q.toList <+: (ofValues (first :: rest)).toList := by
  obtain ⟨back, hfirst, hsize, -⟩ := exists_stem first rest
  have hlength : (bytes q).length ≤ (bytes first).length := by
    rw [length_bytes, length_bytes]
    exact byteSize_mono h.leads
  have hcut := (isGreatest_cut first rest).2 ⟨hlength, endsWord_of_admissible h, h.shared⟩
  rw [length_bytes, ← hsize] at hcut
  exact prefix_of_byteSize_le h.leads ⟨back, hfirst.symm⟩ hcut

theorem trimEnd_begins (cs : List Char) : trimEnd (· != '_') cs <+: cs :=
  List.rdropWhile_prefix (· != '_') cs

theorem whole_trimEnd (cs : List Char) : Whole (trimEnd (· != '_') cs) := by
  rcases Decidable.em (trimEnd (· != '_') cs = []) with hnil | hne
  · exact .inl hnil
  · have hlast := List.rdropWhile_last_not (· != '_') cs hne
    simp only [bne_iff_ne, ne_eq, not_not] at hlast
    refine .inr ?_
    rw [Option.mem_def, List.getLast?_eq_getLast_of_ne_nil hne, Option.some.injEq]
    exact hlast

/-- What ends in an underscore is not reached when all behind the last underscore is cut off. -/
theorem prefix_trimEnd (h : Whole front) (back : List Char) :
    front <+: trimEnd (· != '_') (front ++ back) := by
  induction back using List.reverseRecOn with
  | nil =>
    rw [List.append_nil]
    rcases h with rfl | hlast
    · exact List.nil_prefix
    · obtain ⟨init, rfl⟩ := List.getLast?_eq_some_iff.mp hlast
      simp [trimEnd]
  | append_singleton back c ih =>
    rw [← List.append_assoc, trimEnd, List.reverse_concat, List.dropWhile_cons]
    split
    · exact ih
    · simp

/-- One value, or two, share the first up to its last underscore. -/
theorem ofValues_of_length_le (h : rest.length ≤ 1) :
    ofValues (first :: rest) = .ofList (trimEnd (· != '_') first.toList) := by
  obtain ⟨back, hfirst, -, hwhole⟩ := exists_stem first rest
  have hbegins : (ofValues (first :: rest)).toList <+: trimEnd (· != '_') first.toList := by
    rw [hfirst]
    exact prefix_trimEnd hwhole back
  have hadmissible : Admissible first rest (.ofList (trimEnd (· != '_') first.toList)) := by
    refine ⟨?_, ?_, shared_of_length_le h ?_⟩
    · rw [String.toList_ofList]
      exact trimEnd_begins first.toList
    · rw [String.toList_ofList]
      exact whole_trimEnd first.toList
    · rw [length_bytes, length_bytes, String.toList_ofList]
      exact byteSize_mono (trimEnd_begins first.toList)
  have hends := prefix_of_admissible hadmissible
  rw [String.toList_ofList] at hends
  rw [← String.toList_inj, String.toList_ofList]
  exact hbegins.eq_of_length_le hends.length_le

/-- Cutting the bytes of the first value splits none of its characters. -/
theorem isValid_cut (first : String) (rest : List String) :
    (⟨cut first rest⟩ : String.Pos.Raw).IsValid first := by
  obtain ⟨back, hfirst, hsize, -⟩ := exists_stem first rest
  rw [← hsize]
  exact isValid_byteSize hfirst

theorem bytes_ofValues (first : String) (rest : List String) :
    bytes (ofValues (first :: rest)) = (bytes first).take (cut first rest) := by
  obtain ⟨back, hfirst, -, -⟩ := exists_stem first rest
  rw [← length_bytes_ofValues, bytes, bytes, hfirst, List.flatMap_append, List.take_left]

theorem ofValues_perm (h : rest.Perm others) :
    ofValues (first :: rest) = ofValues (first :: others) := by
  rw [ofValues_cons, ofValues_cons, cut_perm h]

end Stem

/-- The stem of an enum is the longest text that begins its first value, is empty or ends in an
underscore, and has at most one value depart from it at each byte. The bytes of the first value are
cut between two characters, the order of the other values does not matter, and of one value or two
the stem is the first up to its last underscore. -/
theorem stem_is_longest_shared (first : String) (rest : List String) :
    Stem.Admissible first rest (Stem.ofValues (first :: rest)) ∧
      (∀ q, Stem.Admissible first rest q → q.toList <+: (Stem.ofValues (first :: rest)).toList) ∧
      (⟨Stem.cut first rest⟩ : String.Pos.Raw).IsValid first ∧
      bytes (Stem.ofValues (first :: rest)) = (bytes first).take (Stem.cut first rest) ∧
      (∀ others, rest.Perm others →
        Stem.ofValues (first :: rest) = Stem.ofValues (first :: others)) ∧
      (rest.length ≤ 1 →
        Stem.ofValues (first :: rest) = .ofList (trimEnd (· != '_') first.toList)) :=
  ⟨Stem.admissible_ofValues first rest, fun _ => Stem.prefix_of_admissible,
    Stem.isValid_cut first rest, Stem.bytes_ofValues first rest, fun _ => Stem.ofValues_perm,
    Stem.ofValues_of_length_le⟩

namespace Stem

/-- Two of them depart from `ΩMEGA_ÄON_A` inside of its `Ä`, in the second byte of the letter. -/
def omegaValues : List String := ["ΩMEGA_ÄON_B", "ΩMEGA_ÜBER_C", "ΩMEGA_ÜBER_D"]

theorem admissible_omega : Admissible "ΩMEGA_ÄON_A" omegaValues "ΩMEGA_" :=
  ⟨by decide, .inr (by decide), by unfold Shared; decide⟩

theorem omega_stem_is_longest_shared :
    "ΩMEGA_".toList <+: (ofValues ("ΩMEGA_ÄON_A" :: omegaValues)).toList ∧
      omegaValues.Perm omegaValues.reverse ∧
      ofValues ("ΩMEGA_ÄON_A" :: omegaValues)
        = ofValues ("ΩMEGA_ÄON_A" :: omegaValues.reverse) ∧
      ["ΩMEGA_ÜBER_C"].length ≤ 1 ∧ ofValues ["ΩMEGA_ÄON_A", "ΩMEGA_ÜBER_C"] = "ΩMEGA_ÄON_" := by
  obtain ⟨-, hlongest, -, -, hperm, -⟩ := stem_is_longest_shared "ΩMEGA_ÄON_A" omegaValues
  obtain ⟨-, -, -, -, -, htwo⟩ := stem_is_longest_shared "ΩMEGA_ÄON_A" ["ΩMEGA_ÜBER_C"]
  exact ⟨hlongest "ΩMEGA_" admissible_omega, omegaValues.reverse_perm.symm,
    hperm omegaValues.reverse omegaValues.reverse_perm.symm, by decide,
    (htwo (by decide)).trans (by decide)⟩

end Stem

end BindingTables
