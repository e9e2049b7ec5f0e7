import BindingTables.Proofs.Files.Directories
import BindingTables.Proofs.Text.Bytes

/-! Reading and writing one file: which paths admit it, and what it leaves of the tree. -/

namespace BindingTables

open BindingTables.Text

namespace FileTree

variable {t t' : FileTree} {l m : Location} {path content last : String}

/-! Putting content into a file. -/

theorem lookup_put (l m : Location) (content : List UInt8)
    (files : List (Location × List UInt8)) :
    (put l content files).lookup m = if m = l then some content else files.lookup m := by
  induction files with
  | nil => by_cases h : m = l <;> simp [put, h]
  | cons file files ih =>
    obtain ⟨k, old⟩ := file
    by_cases hm : m = k
    · subst hm
      by_cases hk : m = l <;> simp [put, hk]
    · have hmk : (m == k) = false := by simpa using hm
      by_cases hk : k = l
      · subst hk
        simp [put, List.lookup_cons, hmk, hm]
      · simp [put, hk, List.lookup_cons, hmk, ih]

theorem put_of_lookup {content : List UInt8} {files : List (Location × List UInt8)}
    (h : files.lookup l = some content) : put l content files = files := by
  induction files with
  | nil => cases h
  | cons file files ih =>
    obtain ⟨k, old⟩ := file
    by_cases hk : k = l
    · subst hk
      simp at h
      simp [put, h]
    · have hl : (l == k) = false := by simpa using Ne.symm hk
      rw [List.lookup_cons, hl] at h
      rw [put, if_neg hk, ih h]

def withContent (t : FileTree) (l : Location) (content : List UInt8) : FileTree :=
  { t with files := put l content t.files }

@[simp]
theorem isDirectory_withContent (t : FileTree) (l m : Location) (content : List UInt8) :
    (t.withContent l content).isDirectory m = t.isDirectory m := rfl

theorem file?_withContent (t : FileTree) (l m : Location) (content : List UInt8) :
    (t.withContent l content).file? m = if m = l then some content else t.file? m :=
  lookup_put l m content t.files

/-! Writing one file. -/

/-- The path names no directory, and no file stands on the way. -/
structure Admits (t : FileTree) (path : String) : Prop where
  names_file : Path.wantsDirectory path = false
  way_free : ∀ p ∈ t.approach path, t.file? p = none
  not_directory : t.isDirectory (t.place path) = false
  off_way : t.place path ∉ t.approach path

theorem createDirectories_parent {parent : String}
    (hsteps : Path.steps path = Path.steps parent ++ [last])
    (habsolute : Path.isAbsolute parent = Path.isAbsolute path) :
    t.createDirectories parent
      = t.makeDirectories (t.start path) (Path.steps path).dropLast := by
  rw [createDirectories, start, start, habsolute, hsteps, List.dropLast_concat]

theorem locate_eq (h : Path.wantsDirectory path = false) : t.locate path =
    if (t.approach path).all t.isDirectory then some (t.place path) else none := by
  have hne : path ≠ "" := by
    rintro rfl
    exact absurd h (by decide)
  obtain ⟨parent, last, -, hsteps, hlast, -⟩ := Path.exists_parent h
  rw [locate, if_neg hne, approach, place, hsteps, follow_eq t _ _ hlast, List.dropLast_concat]

theorem store_of_wantsDirectory (t : FileTree) (content : String)
    (h : Path.wantsDirectory path = true) :
    ∃ made e, Cleared t made ∧ t.store path content = (made, .error e) := by
  unfold store
  cases Path.parent? path with
  | none => exact ⟨t, .write path, cleared_refl t, by simp [write?, h]⟩
  | some parent =>
    have hcleared := cleared_makeDirectories t (t.start parent) (Path.steps parent)
    rw [← createDirectories] at hcleared
    rcases hmade : t.createDirectories parent with ⟨made, _ | _⟩
    · exact ⟨made, .create parent, by simpa [hmade] using hcleared, by simp [hmade]⟩
    · exact ⟨made, .write path, by simpa [hmade] using hcleared, by simp [hmade, write?, h]⟩

theorem write?_eq (content : List UInt8) (h : Path.wantsDirectory path = false)
    (hway : ∀ p ∈ t.approach path, t.isDirectory p = true) : t.write? path content =
      if t.isDirectory (t.place path) then none
      else some (t.withContent (t.place path) content) := by
  have hlocate := locate_eq (t := t) h
  rw [if_pos (List.all_eq_true.mpr hway)] at hlocate
  simp [write?, h, hlocate, withContent]

/-- The tree with the directories made that a file at the path needs. -/
def prepared (t : FileTree) (path : String) : FileTree :=
  (t.makeDirectories (t.start path) (Path.steps path).dropLast).1

theorem cleared_prepared (t : FileTree) (path : String) : Cleared t (t.prepared path) :=
  cleared_makeDirectories t _ _

theorem prepared_of_isDirectory (h : ∀ p ∈ t.approach path, t.isDirectory p = true) :
    t.prepared path = t := makeDirectories_of_isDirectory h

/-- A file can be written where directories can be made up to it and none is in its place. -/
theorem admits_iff (h : Path.wantsDirectory path = false) : t.Admits path ↔
    (t.makeDirectories (t.start path) (Path.steps path).dropLast).2 = true ∧
      (t.prepared path).isDirectory (t.place path) = false := by
  rw [makeDirectories_succeeds_iff]
  constructor
  · intro hadmits
    refine ⟨hadmits.way_free, Bool.eq_false_iff.mpr fun hdirectory => ?_⟩
    rcases mem_stops_of_isDirectory hdirectory with hold | hway
    · simp [hadmits.not_directory] at hold
    · exact hadmits.off_way hway
  · rintro ⟨hfree, hdirectory⟩
    refine ⟨h, hfree, Bool.eq_false_iff.mpr fun hold => ?_, fun hway => ?_⟩
    · simp [(cleared_prepared t path).kept _ hold] at hdirectory
    · have hmade := isDirectory_of_mem_stops (makeDirectories_succeeds_iff.mpr hfree) hway
      rw [prepared] at hdirectory
      simp [hmade] at hdirectory

theorem store_of_admits (h : t.Admits path) (content : String) : t.store path content =
    ((t.prepared path).withContent (t.place path) (bytes content), .ok ()) := by
  obtain ⟨parent, last, hparent, hsteps, -, habsolute⟩ := Path.exists_parent h.names_file
  obtain ⟨hmade, hplace⟩ := (admits_iff h.names_file).mp h
  have hcleared := cleared_prepared t path
  have hcreate : t.createDirectories parent = (t.prepared path, true) :=
    (createDirectories_parent hsteps habsolute).trans (Prod.ext rfl hmade)
  have hwrite := write?_eq (t := t.prepared path) (bytes content) h.names_file (by
    rw [approach_of_base hcleared.base]
    exact fun p hp => isDirectory_of_mem_stops hmade hp)
  rw [place_of_base hcleared.base, if_neg (by simp [hplace])] at hwrite
  simp [store, hparent, hcreate, hwrite]

theorem store_of_not_admits (hnames : Path.wantsDirectory path = false) (h : ¬ t.Admits path)
    (content : String) : ∃ e, t.store path content = (t.prepared path, .error e) := by
  obtain ⟨parent, last, hparent, hsteps, -, habsolute⟩ := Path.exists_parent hnames
  have hcleared := cleared_prepared t path
  have hcreate := createDirectories_parent (t := t) hsteps habsolute
  rw [admits_iff hnames, not_and, Bool.not_eq_false] at h
  rcases hmade : t.makeDirectories (t.start path) (Path.steps path).dropLast with ⟨made, _ | _⟩
  · have hprepared : t.prepared path = made := by rw [prepared, hmade]
    refine ⟨.create parent, ?_⟩
    simp [store, hparent, hcreate, hmade, hprepared]
  · have hprepared : t.prepared path = made := by rw [prepared, hmade]
    have hplace := h (by rw [hmade])
    have hwrite := write?_eq (t := t.prepared path) (bytes content) hnames (by
      rw [approach_of_base hcleared.base]
      exact fun p hp => isDirectory_of_mem_stops (by rw [hmade]) hp)
    rw [place_of_base hcleared.base, if_pos hplace, hprepared] at hwrite
    refine ⟨.write path, ?_⟩
    simp [store, hparent, hcreate, hmade, hwrite, hprepared]

/-- A write that fails has at most made directories. -/
theorem store_error (h : ¬ t.Admits path) (content : String) :
    ∃ made e, Cleared t made ∧ t.store path content = (made, .error e) := by
  by_cases hnames : Path.wantsDirectory path = true
  · exact store_of_wantsDirectory t content hnames
  · obtain ⟨e, he⟩ := store_of_not_admits (by simpa using hnames) h content
    exact ⟨t.prepared path, e, cleared_prepared t path, he⟩

/-! Reading a file. -/

theorem read_eq_some_iff {raw : List UInt8} : t.read path = some raw ↔
    Path.wantsDirectory path = false ∧ (∀ p ∈ t.approach path, t.isDirectory p = true) ∧
      t.file? (t.place path) = some raw := by
  by_cases hnames : Path.wantsDirectory path = true
  · simp [read, hnames]
  have hnames : Path.wantsDirectory path = false := by simpa using hnames
  by_cases hway : (t.approach path).all t.isDirectory = true
  · rw [read, locate_eq hnames, if_pos hway, if_neg (by simp [hnames])]
    exact ⟨fun h => ⟨hnames, List.all_eq_true.mp hway, h⟩, fun h => h.2.2⟩
  · rw [read, locate_eq hnames, if_neg hway, if_neg (by simp [hnames])]
    refine ⟨fun h => ?_, fun h => absurd (List.all_eq_true.mpr h.2.1) hway⟩
    cases h

/-- Bytes are text exactly if they are what is written of it. -/
theorem fromUTF8?_eq_some_iff {raw : List UInt8} {text : String} :
    String.fromUTF8? ⟨raw.toArray⟩ = some text ↔ raw = bytes text := by
  have hraw : (⟨raw.toArray⟩ : ByteArray) = raw.toByteArray :=
    ByteArray.ext List.data_toByteArray.symm
  rw [hraw, ← List.toByteArray_inj, toByteArray_bytes, String.fromUTF8?]
  constructor
  · intro h
    split at h
    · cases h
      rfl
    · cases h
  · intro h
    rw [dif_pos (h ▸ text.isValidUTF8), Option.some.injEq, ← String.toByteArray_inj]
    exact h

/-- Text reads back from the bytes that are written of it, and from no others. -/
theorem readText_eq_some_iff : t.readText path = some content ↔
    t.read path = some (bytes content) := by
  simp [readText, Option.bind_eq_some_iff, fromUTF8?_eq_some_iff]

/-- No location is a file and a directory. -/
def Consistent (t : FileTree) : Prop := ∀ l, t.isDirectory l = true → t.file? l = none

theorem admits_of_read (ht : t.Consistent) {raw : List UInt8} (h : t.read path = some raw) :
    t.Admits path := by
  obtain ⟨hnames, hway, hfile⟩ := read_eq_some_iff.mp h
  have hplace : ¬ t.isDirectory (t.place path) = true := by
    intro hdirectory
    rw [ht _ hdirectory] at hfile
    cases hfile
  exact ⟨hnames, fun p hp => ht p (hway p hp), (Bool.not_eq_true _).mp hplace,
    fun hmem => hplace (hway _ hmem)⟩

/-- Writing what is there already changes nothing, whether or not it succeeds. -/
theorem store_of_read (h : t.read path = some (bytes content)) :
    (t.store path content).1 = t := by
  obtain ⟨hnames, hway, hfile⟩ := read_eq_some_iff.mp h
  have hprepared := prepared_of_isDirectory hway
  by_cases hadmits : t.Admits path
  · rw [store_of_admits hadmits, hprepared, withContent, put_of_lookup hfile]
  · obtain ⟨e, he⟩ := store_of_not_admits hnames hadmits content
    rw [he, hprepared]

end FileTree

end BindingTables
