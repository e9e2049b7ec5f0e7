import Mathlib.Data.List.Forall2
import BindingTables.Version

/-! The texts that are read as versions: two or three numbers and a status word at most, each in
its place, in one way only. A version is read back from its written form. -/

namespace BindingTables.Version

open BindingTables.Text

variable {c : Char} {cs digits : List Char} {m n : Nat} {u v w : Version} {x : UInt32}

/-- Decimal digits for a number of 32 bits, with or without a plus sign. -/
def IsLiteral (cs : List Char) (n : Nat) : Prop :=
  ∃ digits, (cs = digits ∨ cs = '+' :: digits) ∧ digits ≠ [] ∧
    (∀ d ∈ digits, d.isDigit = true) ∧ Nat.ofDigitChars 10 digits 0 = n ∧ n < UInt32.size

/-- One segment that is no number. -/
def IsStatus (cs : List Char) : Prop := cs ≠ [] ∧ '.' ∉ cs ∧ ∀ n, ¬ IsLiteral cs n

/-- The segments of a version text by what they are for. -/
structure Parts where
  major : List Char
  minor : List Char
  patch : Option (List Char)
  status : Option (List Char)

namespace Parts

def segments (p : Parts) : List (List Char) :=
  p.major :: p.minor :: (p.patch.toList ++ p.status.toList)

def text (p : Parts) : List Char := join '.' p.segments

/-- Each number is the literal in its place; a patch number that is not written is zero. -/
structure Spells (p : Parts) (v : Version) : Prop where
  major : IsLiteral p.major v.major.toNat
  minor : IsLiteral p.minor v.minor.toNat
  patch : ∀ cs ∈ p.patch, IsLiteral cs v.patch.toNat
  noPatch : p.patch = none → v.patch = 0
  status : ∀ cs ∈ p.status, IsStatus cs

end Parts

/-! Numbers. -/

/-- One more digit of a number, if it is one. -/
def addDigit (n : Option Nat) (c : Char) : Option Nat :=
  n.bind fun n => if '0' ≤ c ∧ c ≤ '9' then some (10 * n + (c.toNat - '0'.toNat)) else none

theorem isDigit_iff : c.isDigit = true ↔ '0' ≤ c ∧ c ≤ '9' := by
  simp [Char.isDigit, Char.le_def]

theorem foldl_addDigit_none (cs : List Char) : cs.foldl addDigit none = none := by
  induction cs with
  | nil => rfl
  | cons c cs ih => exact ih

theorem foldl_addDigit_eq_some_iff : cs.foldl addDigit (some m) = some n ↔
    (∀ d ∈ cs, d.isDigit = true) ∧ Nat.ofDigitChars 10 cs m = n := by
  induction cs generalizing m with
  | nil => simp
  | cons c cs ih =>
    rw [List.foldl_cons, List.forall_mem_cons, Nat.ofDigitChars_cons, isDigit_iff]
    by_cases hc : '0' ≤ c ∧ c ≤ '9'
    · have hstep : addDigit (some m) c = some (10 * m + (c.toNat - '0'.toNat)) := if_pos hc
      rw [hstep, ih]
      simp [hc]
    · have hstep : addDigit (some m) c = none := if_neg hc
      rw [hstep, foldl_addDigit_none]
      simp [hc]

/-- Digits are read in base ten, and at least one is needed. -/
theorem digits?_eq_some_iff : digits? cs = some n ↔
    cs ≠ [] ∧ (∀ d ∈ cs, d.isDigit = true) ∧ Nat.ofDigitChars 10 cs 0 = n := by
  cases cs with
  | nil => simp [digits?]
  | cons c cs =>
    have hfold : digits? (c :: cs) = (c :: cs).foldl addDigit (some 0) := rfl
    rw [hfold, foldl_addDigit_eq_some_iff]
    simp

/-- The sign is no digit, so the digits of a literal are what is left without it. -/
theorem eq_or_eq_plus_iff (hne : digits ≠ []) (hdigits : ∀ d ∈ digits, d.isDigit = true) :
    cs = digits ∨ cs = '+' :: digits ↔ unsigned cs = digits := by
  fun_cases unsigned cs with
  | case1 cs =>
    constructor
    · rintro (rfl | h)
      · cases hdigits '+' List.mem_cons_self
      · exact (List.cons.inj h).2
    · rintro rfl
      exact .inr rfl
  | case2 cs hcs =>
    constructor
    · rintro (rfl | rfl)
      · rfl
      · exact absurd rfl (hcs digits)
    · exact .inl

/-- A sign in front makes no difference, and the number has to fit. -/
theorem isLiteral_iff : IsLiteral cs n ↔ digits? (unsigned cs) = some n ∧ n < UInt32.size := by
  rw [digits?_eq_some_iff]
  constructor
  · rintro ⟨digits, hcs, hne, hdigits, hvalue, hlt⟩
    rw [eq_or_eq_plus_iff hne hdigits] at hcs
    rw [hcs]
    exact ⟨⟨hne, hdigits, hvalue⟩, hlt⟩
  · rintro ⟨⟨hne, hdigits, hvalue⟩, hlt⟩
    exact ⟨_, (eq_or_eq_plus_iff hne hdigits).mpr rfl, hne, hdigits, hvalue, hlt⟩

theorem number?_eq_some_iff : number? cs = some x ↔ IsLiteral cs x.toNat := by
  rw [isLiteral_iff, number?]
  cases digits? (unsigned cs) with
  | none => simp
  | some n =>
    have hx : x.toNat < UInt32.size := x.toNat_lt
    dsimp only
    split
    · rename_i hlt
      have hround : n.toUInt32.toNat = n := UInt32.toNat_ofNat_of_lt hlt
      rw [Option.some.injEq, Option.some.injEq, ← UInt32.toNat_inj, hround]
      exact ⟨fun h => ⟨h, hx⟩, fun h => h.1⟩
    · rename_i hge
      constructor
      · intro h
        cases h
      · rintro ⟨h, -⟩
        cases h
        exact absurd hx hge

theorem number?_eq_none_iff : number? cs = none ↔ ∀ n, ¬ IsLiteral cs n := by
  constructor
  · intro hnone n hn
    obtain ⟨-, -, -, -, -, hlt⟩ := id hn
    have hround : n.toUInt32.toNat = n := UInt32.toNat_ofNat_of_lt hlt
    rw [← hround, ← number?_eq_some_iff, hnone] at hn
    cases hn
  · intro hno
    cases hx : number? cs with
    | none => rfl
    | some x => exact absurd (number?_eq_some_iff.mp hx) (hno x.toNat)

theorem IsLiteral.ne_nil (h : IsLiteral cs n) : cs ≠ [] := by
  obtain ⟨digits, rfl | rfl, hne, -⟩ := h
  · exact hne
  · exact List.cons_ne_nil '+' digits

theorem IsLiteral.point_not_mem (h : IsLiteral cs n) : '.' ∉ cs := by
  obtain ⟨digits, hcs, -, hdigits, -⟩ := h
  have hpoint : '.' ∉ digits := by
    intro hmem
    cases hdigits '.' hmem
  rcases hcs with rfl | rfl
  · exact hpoint
  · simpa using hpoint

theorem isLiteral_toDigits (x : UInt32) : IsLiteral (Nat.toDigits 10 x.toNat) x.toNat :=
  ⟨_, .inl rfl, Nat.toDigits_ne_nil,
    fun _ hd => Nat.isDigit_of_mem_toDigits (by decide) (by decide) hd,
    Nat.ofDigitChars_ten_toDigits, x.toNat_lt⟩

/-! The numbers in front. -/

/-- Segment by segment, the literal of the number. -/
def Numbered (front : List (List Char)) (ns : List UInt32) : Prop :=
  List.Forall₂ (fun cs x => number? cs = some x) front ns

/-- The numbers in front end at the first segment that is none. -/
theorem leading_append {front rest : List (List Char)} {ns : List UInt32}
    (hfront : Numbered front ns) (hrest : ∀ cs ∈ rest.head?, number? cs = none) :
    leading (front ++ rest) = (ns, rest) := by
  induction hfront with
  | nil =>
    cases rest with
    | nil => rfl
    | cons cs rest => rw [List.nil_append, leading, hrest cs rfl]
  | cons hcs _ ih => rw [List.cons_append, leading, hcs, ih]

theorem exists_leading (segments : List (List Char)) :
    ∃ front, Numbered front (leading segments).1 ∧
      (∀ cs ∈ (leading segments).2.head?, number? cs = none) ∧
      segments = front ++ (leading segments).2 := by
  induction segments with
  | nil => exact ⟨[], .nil, by simp [leading], rfl⟩
  | cons cs rest ih =>
    rw [leading]
    cases hcs : number? cs with
    | none => exact ⟨[], .nil, by simp [hcs], rfl⟩
    | some x =>
      obtain ⟨front, hfront, hstop, hrest⟩ := ih
      exact ⟨cs :: front, .cons hcs hfront, hstop, congrArg (cs :: ·) hrest⟩

theorem Numbered.exists_cons {front : List (List Char)} {ns : List UInt32}
    (h : Numbered front (x :: ns)) :
    ∃ cs rest, IsLiteral cs x.toNat ∧ Numbered rest ns ∧ front = cs :: rest := by
  obtain ⟨cs, rest, hcs, hrest, rfl⟩ := List.forall₂_cons_right_iff.mp h
  exact ⟨cs, rest, number?_eq_some_iff.mp hcs, hrest, rfl⟩

/-! Parts. -/

namespace Parts

variable {p q : Parts}

namespace Spells

variable (h : p.Spells v)
include h

/-- No part of a version has a point in it or is empty. -/
theorem segment (cs : List Char) (hcs : cs ∈ p.segments) : cs ≠ [] ∧ '.' ∉ cs := by
  simp only [segments, List.mem_cons, List.mem_append, Option.mem_toList] at hcs
  rcases hcs with rfl | rfl | hpatch | hstatus
  · exact ⟨h.major.ne_nil, h.major.point_not_mem⟩
  · exact ⟨h.minor.ne_nil, h.minor.point_not_mem⟩
  · exact ⟨(h.patch cs hpatch).ne_nil, (h.patch cs hpatch).point_not_mem⟩
  · exact ⟨(h.status cs hstatus).1, (h.status cs hstatus).2.1⟩

theorem leading_segments : leading p.segments =
    (v.major :: v.minor :: (p.patch.map fun _ => v.patch).toList, p.status.toList) := by
  have hpatch : Numbered p.patch.toList (p.patch.map fun _ => v.patch).toList := by
    cases hp : p.patch with
    | none => exact .nil
    | some cs => exact .cons (number?_eq_some_iff.mpr (h.patch cs hp)) .nil
  have hfront : Numbered (p.major :: p.minor :: p.patch.toList)
      (v.major :: v.minor :: (p.patch.map fun _ => v.patch).toList) :=
    .cons (number?_eq_some_iff.mpr h.major) (.cons (number?_eq_some_iff.mpr h.minor) hpatch)
  apply leading_append hfront
  intro cs hcs
  have hstatus := h.status cs (Option.mem_toList.mp (List.mem_of_head? hcs))
  exact number?_eq_none_iff.mpr hstatus.2.2

theorem ofSegments?_segments : ofSegments? p.segments = some v := by
  have hempty : ¬ p.segments.any List.isEmpty = true := by
    rw [List.any_eq_true]
    rintro ⟨cs, hcs, hnil⟩
    exact (h.segment cs hcs).1 (List.isEmpty_iff.mp hnil)
  have hlength : p.status.toList.length ≤ 1 := by cases p.status <;> simp
  rw [ofSegments?, if_neg hempty, h.leading_segments]
  cases hp : p.patch with
  | none =>
    rw [← h.noPatch hp]
    exact if_pos hlength
  | some cs => exact if_pos hlength

theorem split_text : split '.' p.text = p.segments :=
  split_join (List.cons_ne_nil _ _) fun cs hcs => (h.segment cs hcs).2

/-- The numbers and the status of a text say which of its segments are which. -/
theorem unique (hq : q.Spells w) (htext : p.text = q.text) : p = q := by
  have hsegments : p.segments = q.segments := by
    rw [← h.split_text, htext, hq.split_text]
  have hstatus : p.status.toList = q.status.toList := by
    have hleading := congrArg (leading · |>.2) hsegments
    rwa [h.leading_segments, hq.leading_segments] at hleading
  rw [segments, segments, hstatus, List.cons.injEq, List.cons.injEq,
    List.append_cancel_right_eq] at hsegments
  obtain ⟨hmajor, hminor, hpatch⟩ := hsegments
  have hpatch' : p.patch = q.patch := by simpa using congrArg List.head? hpatch
  have hstatus' : p.status = q.status := by simpa using congrArg List.head? hstatus
  cases p
  cases q
  cases hmajor
  cases hminor
  cases hpatch'
  cases hstatus'
  rfl

end Spells

end Parts

theorem exists_status {status : List (List Char)} (hlength : status.length ≤ 1)
    (hstop : ∀ cs ∈ status.head?, number? cs = none)
    (hsegment : ∀ cs ∈ status, cs ≠ [] ∧ '.' ∉ cs) :
    ∃ o : Option (List Char), o.toList = status ∧ ∀ cs ∈ o, IsStatus cs := by
  match status, hlength with
  | [], _ => exact ⟨none, rfl, by simp⟩
  | [cs], _ =>
    obtain ⟨hne, hpoint⟩ := hsegment cs List.mem_cons_self
    have hstatus : IsStatus cs := ⟨hne, hpoint, number?_eq_none_iff.mp (hstop cs rfl)⟩
    exact ⟨some cs, rfl, by simpa using hstatus⟩

/-- All that is asked of the segments of a version. -/
theorem leading_of_ofSegments? {segments : List (List Char)} (h : ofSegments? segments = some v) :
    (∀ cs ∈ segments, cs ≠ []) ∧ (leading segments).2.length ≤ 1 ∧
      ((leading segments).1 = [v.major, v.minor] ∧ v.patch = 0 ∨
        (leading segments).1 = [v.major, v.minor, v.patch]) := by
  rw [ofSegments?, Option.ite_none_left_eq_some] at h
  obtain ⟨hempty, h⟩ := h
  have hne : ∀ cs ∈ segments, cs ≠ [] := by
    intro cs hcs hnil
    exact hempty (List.any_eq_true.mpr ⟨cs, hcs, List.isEmpty_iff.mpr hnil⟩)
  split at h
  · rename_i x y status hleading
    obtain ⟨hlength, hv⟩ := Option.ite_none_right_eq_some.mp h
    cases hv
    rw [hleading]
    exact ⟨hne, hlength, .inl ⟨rfl, rfl⟩⟩
  · rename_i x y z status hleading
    obtain ⟨hlength, hv⟩ := Option.ite_none_right_eq_some.mp h
    cases hv
    rw [hleading]
    exact ⟨hne, hlength, .inr rfl⟩
  · cases h

/-- Segments that are read come from one set of parts. -/
theorem exists_parts {segments : List (List Char)} (hpoint : ∀ cs ∈ segments, '.' ∉ cs)
    (h : ofSegments? segments = some v) : ∃ p : Parts, p.segments = segments ∧ p.Spells v := by
  obtain ⟨front, hfront, hstop, hsegments⟩ := exists_leading segments
  obtain ⟨hne, hlength, hnumbers⟩ := leading_of_ofSegments? h
  have hsegment : ∀ cs ∈ (leading segments).2, cs ≠ [] ∧ '.' ∉ cs := by
    intro cs hcs
    have hmem : cs ∈ segments := by
      rw [hsegments]
      exact List.mem_append_right front hcs
    exact ⟨hne cs hmem, hpoint cs hmem⟩
  obtain ⟨status, hstatus, hword⟩ := exists_status hlength hstop hsegment
  rw [← hstatus] at hsegments
  rcases hnumbers with ⟨hnumbers, hzero⟩ | hnumbers
  · rw [hnumbers] at hfront
    obtain ⟨major, _, hmajor, hminors, rfl⟩ := hfront.exists_cons
    obtain ⟨minor, _, hminor, hnil, rfl⟩ := hminors.exists_cons
    cases hnil
    exact ⟨⟨major, minor, none, status⟩, hsegments.symm, hmajor, hminor, by simp, fun _ => hzero,
      hword⟩
  · rw [hnumbers] at hfront
    obtain ⟨major, _, hmajor, hminors, rfl⟩ := hfront.exists_cons
    obtain ⟨minor, _, hminor, hpatches, rfl⟩ := hminors.exists_cons
    obtain ⟨patch, _, hpatch, hnil, rfl⟩ := hpatches.exists_cons
    cases hnil
    exact ⟨⟨major, minor, some patch, status⟩, hsegments.symm, hmajor, hminor,
      by simpa using hpatch, by simp, hword⟩

theorem parse?_eq_some_iff (s : String) :
    parse? s = some v ↔ ∃ p : Parts, p.text = s.toList ∧ p.Spells v := by
  constructor
  · intro h
    obtain ⟨p, hp, hspells⟩ := exists_parts (fun _ => sep_not_mem_of_mem_split) h
    exact ⟨p, by rw [Parts.text, hp, join_split], hspells⟩
  · rintro ⟨p, htext, hspells⟩
    rw [parse?, ← htext, hspells.split_text]
    exact hspells.ofSegments?_segments

/-! The written form. -/

/-- The parts of the written form, with a status behind it or none. -/
def parts (v : Version) (status : Option (List Char)) : Parts :=
  ⟨Nat.toDigits 10 v.major.toNat, Nat.toDigits 10 v.minor.toNat,
    some (Nat.toDigits 10 v.patch.toNat), status⟩

theorem spells_parts {status : Option (List Char)} (h : ∀ cs ∈ status, IsStatus cs) :
    (v.parts status).Spells v :=
  ⟨isLiteral_toDigits v.major, isLiteral_toDigits v.minor,
    by simpa [parts] using isLiteral_toDigits v.patch, by simp [parts], h⟩

theorem text_parts (v : Version) : (v.parts none).text = (render v).toList := by
  have hpoint : (toString ".").toList = ['.'] := rfl
  simp [Parts.text, Parts.segments, parts, join, render, Nat.toString_eq_repr, Nat.repr, hpoint]

theorem text_parts_some (v : Version) (cs : List Char) :
    (v.parts (some cs)).text = (render v).toList ++ '.' :: cs := by
  rw [← text_parts]
  simp [Parts.text, Parts.segments, parts, join]

/-- A version is read from its written form. -/
theorem parse?_render (v : Version) : parse? (render v) = some v := by
  rw [parse?_eq_some_iff]
  exact ⟨v.parts none, text_parts v, spells_parts (by simp)⟩

theorem parse?_render_status {st : String} (h : IsStatus st.toList) :
    parse? (render v ++ "." ++ st) = some v := by
  rw [parse?_eq_some_iff]
  refine ⟨v.parts (some st.toList), ?_, spells_parts (by simpa using h)⟩
  rw [text_parts_some, String.toList_append, String.toList_append]
  simp

/-! Order. -/

def numbers (v : Version) : List Nat := [v.major.toNat, v.minor.toNat, v.patch.toNat]

theorem numbers_lt_iff : u.numbers < v.numbers ↔ (u.major < v.major ∨ u.major = v.major ∧
    u.minor < v.minor) ∨ (u.major = v.major ∧ u.minor = v.minor) ∧ u.patch < v.patch := by
  simp only [numbers, List.cons_lt_cons_iff, UInt32.lt_iff_toNat_lt, UInt32.toNat_inj,
    List.not_lt_nil, and_false, or_false]
  rw [and_or_left, or_assoc, and_assoc]

/-- Versions are ordered by their numbers, the first that differs deciding. -/
theorem order_eq_lt_iff : order u v = .lt ↔ u.numbers < v.numbers := by
  rw [numbers_lt_iff, order, Ordering.then_eq_lt, Ordering.then_eq_lt, Ordering.then_eq_eq,
    Std.compare_eq_lt, Std.compare_eq_lt, Std.compare_eq_lt, Std.LawfulEqCmp.compare_eq_iff_eq,
    Std.LawfulEqCmp.compare_eq_iff_eq]

theorem order_swap (u v : Version) : (order u v).swap = order v u := by
  rw [order, order, Ordering.swap_then, Ordering.swap_then, ← Std.OrientedCmp.eq_swap,
    ← Std.OrientedCmp.eq_swap, ← Std.OrientedCmp.eq_swap]

theorem order_eq_gt_iff : order u v = .gt ↔ v.numbers < u.numbers := by
  rw [← order_eq_lt_iff, ← order_swap u v, Ordering.swap_eq_lt]

theorem order_eq_eq_iff : order u v = .eq ↔ u = v := by
  cases u
  cases v
  simp [order, Ordering.then_eq_eq, and_assoc]

/-- A text is read as a version just if it is made of two or three numbers and a status at most, and
as the numbers that it spells; there is one way to see it so. What a version is written as is read
as this version, whatever the status behind it, and versions compare by their numbers in order. -/
theorem parsing_reads_one_grammar :
    (∀ s v, parse? s = some v ↔ ∃ p : Parts, p.text = s.toList ∧ p.Spells v) ∧
      (∀ (p q : Parts) v w, p.Spells v → q.Spells w → p.text = q.text → p = q) ∧
      (∀ v, parse? (render v) = some v ∧
        ∀ st : String, IsStatus st.toList → parse? (render v ++ "." ++ st) = some v) ∧
      ∀ u v, (order u v = .lt ↔ u.numbers < v.numbers) ∧ (order u v = .eq ↔ u = v) ∧
        (order u v = .gt ↔ v.numbers < u.numbers) := by
  refine ⟨fun s _ => parse?_eq_some_iff s, fun p q v w hp hq => hp.unique hq, ?_, ?_⟩
  · exact fun v => ⟨parse?_render v, fun st => parse?_render_status⟩
  · exact fun u v => ⟨order_eq_lt_iff, order_eq_eq_iff, order_eq_gt_iff⟩

/-- The last segment is a status, being one beyond the numbers of 32 bits. -/
def beyond : Parts := ⟨"+4".toList, "01".toList, none, some "4294967296".toList⟩

theorem isStatus_beyond : IsStatus "4294967296".toList :=
  ⟨by decide, by decide, number?_eq_none_iff.mp (by decide)⟩

theorem spells_beyond : beyond.Spells ⟨4, 1, 0⟩ where
  major := ⟨['4'], .inr rfl, by decide, by simp, rfl, by decide⟩
  minor := ⟨['0', '1'], .inl rfl, by decide, by simp, rfl, by decide⟩
  patch := by simp [beyond]
  noPatch := fun _ => rfl
  status := by simpa [beyond] using isStatus_beyond

theorem beyond_parsing_reads_one_grammar :
    beyond.Spells ⟨4, 1, 0⟩ ∧ parse? "+4.01.4294967296" = some ⟨4, 1, 0⟩ ∧
      ¬ Parts.Spells ⟨"+4".toList, "01".toList, some "4294967296".toList, none⟩ ⟨4, 1, 0⟩ ∧
      IsStatus "4294967296".toList ∧ parse? "4.1.0.4294967296" = some ⟨4, 1, 0⟩ := by
  obtain ⟨hparse, hunique, hrender, -⟩ := parsing_reads_one_grammar
  have htext : beyond.text = "+4.01.4294967296".toList := by decide
  refine ⟨spells_beyond, (hparse _ _).mpr ⟨beyond, htext, spells_beyond⟩, ?_, isStatus_beyond,
    (hrender ⟨4, 1, 0⟩).2 _ isStatus_beyond⟩
  intro hspells
  cases hunique _ _ _ _ hspells spells_beyond rfl

end BindingTables.Version
