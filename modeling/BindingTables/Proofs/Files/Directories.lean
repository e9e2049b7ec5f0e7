import BindingTables.Proofs.Files.Paths

/-! Walking through directories, and making those that a path needs. -/

namespace BindingTables

namespace FileTree

variable {t t' : FileTree} {l m : Location} {way : List String} {path last : String}

/-- The location that the path names. -/
def place (t : FileTree) (path : String) : Location :=
  Path.destination (t.start path) (Path.steps path)

/-- The locations that have to be directories for a file to stand at the path. -/
def approach (t : FileTree) (path : String) : List Location :=
  Path.stops (t.start path) (Path.steps path).dropLast

/-- Steps that end in a name lead there if those before it go through directories. -/
theorem follow_eq (t : FileTree) (l : Location) (way : List String) (hlast : last ≠ "..") :
    t.follow l (way ++ [last]) =
      if (Path.stops l way).all t.isDirectory then some (Path.destination l (way ++ [last]))
      else none := by
  induction way generalizing l with
  | nil => simp [follow, Path.stops, Path.destination, hlast]
  | cons step way ih =>
    by_cases hup : step = ".."
    · subst hup
      rw [List.cons_append, follow, if_pos rfl, ih, Path.stops_up, Path.destination_up]
    · rw [List.cons_append, follow, if_neg hup, Path.stops_down hup, Path.destination_down hup,
        List.all_cons]
      by_cases hdirectory : t.isDirectory (l ++ [step]) = true
      · simp [hdirectory, ih]
      · simp [hdirectory]

/-- `after` has the files of `before`, and it may have more directories where no file is. -/
structure Cleared (before after : FileTree) : Prop where
  files : after.files = before.files
  base : after.base = before.base
  kept : ∀ m, before.isDirectory m = true → after.isDirectory m = true
  new : ∀ m, after.isDirectory m = true → before.isDirectory m = true ∨ before.file? m = none

theorem cleared_refl (t : FileTree) : Cleared t t := ⟨rfl, rfl, fun _ h => h, fun _ h => .inl h⟩

theorem Cleared.trans {t'' : FileTree} (h : Cleared t t') (h' : Cleared t' t'') :
    Cleared t t'' := by
  refine ⟨h'.files.trans h.files, h'.base.trans h.base, fun m hm => h'.kept m (h.kept m hm), ?_⟩
  intro m hm
  rcases h'.new m hm with hm | hm
  · exact h.new m hm
  · exact .inr (by rwa [file?, h.files] at hm)

theorem Cleared.file? (h : Cleared t t') (l : Location) : t'.file? l = t.file? l := by
  rw [FileTree.file?, h.files, FileTree.file?]

theorem place_of_base (h : t'.base = t.base) (path : String) : t'.place path = t.place path := by
  rw [place, place, start, start, h]

theorem approach_of_base (h : t'.base = t.base) (path : String) :
    t'.approach path = t.approach path := by
  rw [approach, approach, start, start, h]

/-- Makes one directory. -/
def withDirectory (t : FileTree) (l : Location) : FileTree :=
  { t with directories := t.directories ++ [l] }

theorem isDirectory_withDirectory :
    (t.withDirectory l).isDirectory m = true ↔ t.isDirectory m = true ∨ m = l := by
  simp [withDirectory, isDirectory, or_assoc]

theorem cleared_withDirectory (h : t.file? l = none) : Cleared t (t.withDirectory l) := by
  refine ⟨rfl, rfl, fun m hm => isDirectory_withDirectory.mpr (.inl hm), fun m hm => ?_⟩
  rcases isDirectory_withDirectory.mp hm with hm | rfl
  · exact .inl hm
  · exact .inr h

theorem cleared_makeDirectories (t : FileTree) (l : Location) (way : List String) :
    Cleared t (t.makeDirectories l way).1 := by
  fun_induction makeDirectories t l way with
  | case1 t l => exact cleared_refl t
  | case2 t l rest ih => exact ih
  | case3 t l step rest _ next hfile => exact cleared_refl t
  | case4 t l step rest _ next hfile hdirectory ih => exact ih
  | case5 t l step rest _ next hfile hdirectory ih =>
    exact (cleared_withDirectory (by simpa using hfile)).trans ih

/-- Only a file on the way keeps directories from being made. -/
theorem makeDirectories_succeeds_iff : (t.makeDirectories l way).2 = true ↔
    ∀ p ∈ Path.stops l way, t.file? p = none := by
  fun_induction makeDirectories t l way with
  | case1 t l => simp [Path.stops]
  | case2 t l rest ih => rw [ih, Path.stops_up]
  | case3 t l step rest hup next hfile =>
    rw [Path.stops_down hup, List.forall_mem_cons]
    have hnext : t.file? (l ++ [step]) ≠ none := Option.isSome_iff_ne_none.mp hfile
    simp [hnext]
  | case4 t l step rest hup next hfile hdirectory ih =>
    rw [ih, Path.stops_down hup, List.forall_mem_cons]
    exact ⟨fun h => ⟨by simpa using hfile, h⟩, And.right⟩
  | case5 t l step rest hup next hfile hdirectory ih =>
    rw [ih, Path.stops_down hup, List.forall_mem_cons]
    exact ⟨fun h => ⟨by simpa using hfile, h⟩, And.right⟩

theorem isDirectory_of_mem_stops (h : (t.makeDirectories l way).2 = true)
    (hm : m ∈ Path.stops l way) : (t.makeDirectories l way).1.isDirectory m = true := by
  fun_induction makeDirectories t l way with
  | case1 t l => cases hm
  | case2 t l rest ih =>
    rw [Path.stops_up] at hm
    exact ih h hm
  | case3 t l step rest hup next hfile => cases h
  | case4 t l step rest hup next hfile hdirectory ih =>
    rw [Path.stops_down hup] at hm
    rcases List.mem_cons.mp hm with rfl | hm
    · exact (cleared_makeDirectories t _ rest).kept _ hdirectory
    · exact ih h hm
  | case5 t l step rest hup next hfile hdirectory ih =>
    rw [Path.stops_down hup] at hm
    rcases List.mem_cons.mp hm with rfl | hm
    · refine (cleared_makeDirectories (t.withDirectory next) next rest).kept next ?_
      exact isDirectory_withDirectory.mpr (.inr rfl)
    · exact ih h hm

/-- Where a location becomes a directory, it lies on the way. -/
theorem mem_stops_of_isDirectory (h : (t.makeDirectories l way).1.isDirectory m = true) :
    t.isDirectory m = true ∨ m ∈ Path.stops l way := by
  fun_induction makeDirectories t l way with
  | case1 t l => exact .inl h
  | case2 t l rest ih =>
    rw [Path.stops_up]
    exact ih h
  | case3 t l step rest hup next hfile => exact .inl h
  | case4 t l step rest hup next hfile hdirectory ih =>
    rw [Path.stops_down hup]
    exact (ih h).imp_right (List.mem_cons_of_mem _)
  | case5 t l step rest hup next hfile hdirectory ih =>
    rw [Path.stops_down hup]
    rcases ih h with hm | hm
    · rcases isDirectory_withDirectory.mp hm with hm | rfl
      · exact .inl hm
      · exact .inr List.mem_cons_self
    · exact .inr (List.mem_cons_of_mem _ hm)

/-- Nothing is made where all directories are there. -/
theorem makeDirectories_of_isDirectory (h : ∀ p ∈ Path.stops l way, t.isDirectory p = true) :
    (t.makeDirectories l way).1 = t := by
  fun_induction makeDirectories t l way with
  | case1 t l => rfl
  | case2 t l rest ih =>
    rw [Path.stops_up] at h
    exact ih h
  | case3 t l step rest hup next hfile => rfl
  | case4 t l step rest hup next hfile hdirectory ih =>
    rw [Path.stops_down hup, List.forall_mem_cons] at h
    exact ih h.2
  | case5 t l step rest hup next hfile hdirectory ih =>
    rw [Path.stops_down hup, List.forall_mem_cons] at h
    exact absurd h.1 hdirectory

end FileTree

end BindingTables
