import BindingTables.FileTree

/-! Where paths lead, and what has to stand on the way there. -/

namespace BindingTables

open BindingTables.Text

namespace Path

variable {path step last : String} {l m : Location} {way : List String}

/-- Where the steps lead from a location, whatever stands there. -/
def destination (l : Location) : List String → Location
  | [] => l
  | step :: rest =>
    if step = ".." then destination l.dropLast rest else destination (l ++ [step]) rest

/-- The locations that the steps go down to, one after the other. -/
def stops (l : Location) : List String → List Location
  | [] => []
  | step :: rest =>
    if step = ".." then stops l.dropLast rest else (l ++ [step]) :: stops (l ++ [step]) rest

theorem destination_up : destination l (".." :: way) = destination l.dropLast way := if_pos rfl

theorem destination_down (h : step ≠ "..") :
    destination l (step :: way) = destination (l ++ [step]) way := if_neg h

theorem stops_up : stops l (".." :: way) = stops l.dropLast way := if_pos rfl

theorem stops_down (h : step ≠ "..") :
    stops l (step :: way) = (l ++ [step]) :: stops (l ++ [step]) way := if_neg h

/-! The path to what a path's last step is taken from. -/

theorem toList_intercalate_slash {ps : List String} (h : ps ≠ []) :
    ("/".intercalate ps).toList = Text.join '/' (ps.map (·.toList)) := by
  induction ps with
  | nil => exact absurd rfl h
  | cons p ps ih =>
    cases ps with
    | nil => simp [Text.join]
    | cons q ps =>
      rw [String.intercalate_cons_cons, String.toList_append, String.toList_append, ih (by simp)]
      simp [Text.join]

theorem slash_not_mem_of_mem_pieces {piece : String} (h : piece ∈ pieces path) :
    '/' ∉ piece.toList := by
  rw [pieces] at h
  obtain ⟨cs, hcs, rfl⟩ := List.mem_map.mp h
  rw [String.toList_ofList]
  exact sep_not_mem_of_mem_split hcs

/-- Pieces joined by slashes are cut again into the same pieces. -/
theorem pieces_intercalate {ps : List String} (h : ps ≠ [])
    (hps : ∀ p ∈ ps, '/' ∉ p.toList) : pieces ("/".intercalate ps) = ps := by
  rw [pieces, toList_intercalate_slash h, split_join (by simpa using h) (by simpa using hps)]
  simp [Function.comp_def]

/-- A path from the root has nothing before its first slash. -/
theorem isAbsolute_iff : isAbsolute path = true ↔ ∃ p ps, pieces path = "" :: p :: ps := by
  rw [isAbsolute, decide_eq_true_eq, pieces]
  cases path.toList with
  | nil => simp [split]
  | cons c cs =>
    obtain ⟨first, rest, -, hsplit⟩ := split_cons '/' c cs
    rw [hsplit]
    by_cases hc : c = '/'
    · simp [hc]
    · simp [hc]

theorem trimPieces_split {ps : List String} (h : ps ≠ []) : ∃ dropped, trimPieces ps ≠ [] ∧
    ps = dropped ++ trimPieces ps ∧ ∀ p ∈ dropped, p = "" ∨ p = "." := by
  fun_induction trimPieces ps with
  | case1 => exact absurd rfl h
  | case2 first => exact ⟨[], by simp, rfl, by simp⟩
  | case3 piece rest hrest hnowhere ih =>
    obtain ⟨dropped, hne, hsplit, hdropped⟩ := ih (by simpa using hrest)
    refine ⟨piece :: dropped, hne, ?_, ?_⟩
    · rw [List.cons_append, ← hsplit]
    · rw [List.forall_mem_cons]
      exact ⟨hnowhere, hdropped⟩
  | case4 piece rest hrest hnowhere => exact ⟨[], by simp, rfl, by simp⟩

theorem pieces_ne_nil : pieces path ≠ [] := by
  rw [pieces, ne_eq, List.map_eq_nil_iff]
  exact split_ne_nil '/' path.toList

/-- A path that may lead to a file ends in a name. -/
theorem exists_last (h : wantsDirectory path = false) : ∃ front last,
    pieces path = front ++ [last] ∧ last ≠ "" ∧ last ≠ "." ∧ last ≠ ".." := by
  rcases List.eq_nil_or_concat (pieces path) with hnil | ⟨front, last, hpieces⟩
  · exact absurd hnil pieces_ne_nil
  · rw [List.concat_eq_append] at hpieces
    rw [wantsDirectory, hpieces, List.getLast?_concat] at h
    simp only [Bool.or_eq_false_iff, decide_eq_false_iff_not] at h
    exact ⟨front, last, hpieces, h.1.1, h.1.2, h.2⟩

theorem parent?_of_name (hpieces : pieces path = [last]) (hlast : last ≠ "") :
    parent? path = some "" := by
  simp [parent?, hpieces, trimPieces]

theorem parent?_of_front {front : List String} (hpieces : pieces path = front ++ [last])
    (hfront : front ≠ []) (hlast : last ≠ "" ∧ last ≠ ".") : parent? path =
      if trimPieces front.reverse = [""] then some "/"
      else some ("/".intercalate (trimPieces front.reverse).reverse) := by
  have hreverse : front.reverse ≠ [] := by simpa using hfront
  have htrim : trimPieces (pieces path).reverse = last :: front.reverse := by
    rw [hpieces, List.reverse_append, List.reverse_singleton, List.singleton_append]
    obtain ⟨q, rest, hq⟩ := List.exists_cons_of_ne_nil hreverse
    rw [hq, trimPieces, if_neg (not_or.mpr hlast)]
    simp
  rw [parent?, htrim]
  obtain ⟨q, rest, hq⟩ := List.exists_cons_of_ne_nil hreverse
  rw [hq]
  split
  · rename_i h
    simp at h
  · rename_i h
    simp at h
  · rename_i h
    simp at h
  · rename_i h
    cases h
    split
    · rename_i h
      rw [if_pos h]
    · rename_i h
      rw [if_neg h]

theorem steps_of_pieces {kept dropped : List String}
    (hpieces : pieces path = kept ++ dropped ++ [last])
    (hlast : last ≠ "" ∧ last ≠ ".") (hdropped : ∀ p ∈ dropped, p = "" ∨ p = ".") :
    steps path = (kept.filter fun s => s ≠ "" ∧ s ≠ ".") ++ [last] := by
  have hnone : dropped.filter (fun s => s ≠ "" ∧ s ≠ ".") = [] := by
    rw [List.filter_eq_nil_iff]
    intro p hp
    rcases hdropped p hp with rfl | rfl <;> simp
  rw [steps, hpieces, List.filter_append, List.filter_append, hnone, List.append_nil]
  simp [hlast]

/-- A path that may lead to a file takes one step from its parent. -/
theorem exists_parent (h : wantsDirectory path = false) : ∃ parent last,
    parent? path = some parent ∧ steps path = steps parent ++ [last] ∧ last ≠ ".." ∧
      isAbsolute parent = isAbsolute path := by
  obtain ⟨front, last, hpieces, hempty, hdot, hup⟩ := exists_last h
  by_cases hfront : front = []
  · subst front
    refine ⟨"", last, parent?_of_name hpieces hempty, ?_, hup, ?_⟩
    · have hpieces : pieces path = [] ++ [] ++ [last] := hpieces
      rw [steps_of_pieces hpieces ⟨hempty, hdot⟩ (by simp)]
      rfl
    · rw [Bool.eq_iff_iff, isAbsolute_iff, isAbsolute_iff, hpieces]
      simp [pieces, split]
  · have hreverse : front.reverse ≠ [] := by simpa using hfront
    obtain ⟨dropped, hkept, hsplit, hdropped⟩ := trimPieces_split hreverse
    have hparent := parent?_of_front hpieces hfront ⟨hempty, hdot⟩
    have hback : front = (trimPieces front.reverse).reverse ++ dropped.reverse := by
      rw [← List.reverse_append, ← hsplit, List.reverse_reverse]
    have hnowhere : ∀ p ∈ dropped.reverse, p = "" ∨ p = "." := by simpa using hdropped
    generalize trimPieces front.reverse = kept at hkept hparent hback
    rw [hback] at hpieces
    have hsteps := steps_of_pieces hpieces ⟨hempty, hdot⟩ hnowhere
    by_cases hroot : kept = [""]
    · subst kept
      refine ⟨"/", last, hparent, hsteps, hup, ?_⟩
      rw [Bool.eq_iff_iff, isAbsolute_iff, isAbsolute_iff, hpieces]
      cases dropped.reverse <;> simp [pieces, split]
    · rw [if_neg hroot] at hparent
      have hparentPieces : pieces ("/".intercalate kept.reverse) = kept.reverse := by
        refine pieces_intercalate (by simpa using hkept) fun p hp => ?_
        have hmem : p ∈ pieces path := by simp [hpieces, List.mem_reverse.mp hp]
        exact slash_not_mem_of_mem_pieces hmem
      refine ⟨_, last, hparent, ?_, hup, ?_⟩
      · rw [hsteps, steps, hparentPieces]
      · rw [Bool.eq_iff_iff, isAbsolute_iff, isAbsolute_iff, hpieces, hparentPieces]
        obtain ⟨p, ps, hp⟩ := List.exists_cons_of_ne_nil (List.reverse_ne_nil_iff.mpr hkept)
        rw [hp]
        cases ps with
        | nil =>
          have hp' : p ≠ "" := by
            rintro rfl
            exact hroot (List.reverse_eq_iff.mp hp)
          simp [hp']
        | cons q ps => simp

end Path

end BindingTables
