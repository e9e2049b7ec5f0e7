import BindingTables.Proofs.Files.Storing

/-! Writing a file only if it changes comes to the same as writing it: what a write leaves in the
tree, when it fails, and what a sequence of writes leaves. -/

namespace BindingTables

open BindingTables.Text

namespace FileTree

variable {t t' : FileTree} {l m : Location} {path content : String}

/-- `after` is `before` with the content in the file at the path. -/
structure Written (before : FileTree) (path content : String) (after : FileTree) : Prop where
  reads : after.read path = some (bytes content)
  file? : ∀ l, after.file? l =
    if l = before.place path then some (bytes content) else before.file? l
  base : after.base = before.base
  kept : ∀ m, before.isDirectory m = true → after.isDirectory m = true
  consistent : before.Consistent → after.Consistent

theorem written_of_read (h : t.read path = some (bytes content)) : t.Written path content t := by
  refine ⟨h, fun l => ?_, rfl, fun _ hm => hm, id⟩
  by_cases hl : l = t.place path
  · rw [if_pos hl, hl, (read_eq_some_iff.mp h).2.2]
  · rw [if_neg hl]

theorem written_of_admits (h : t.Admits path) : t.Written path content
    ((t.prepared path).withContent (t.place path) (bytes content)) := by
  obtain ⟨hmade, hplace⟩ := (admits_iff h.names_file).mp h
  have hcleared := cleared_prepared t path
  have hbase : ((t.prepared path).withContent (t.place path) (bytes content)).base = t.base :=
    hcleared.base
  have hfile (l : Location) := file?_withContent (t.prepared path) (t.place path) l (bytes content)
  simp only [hcleared.file?] at hfile
  refine ⟨?_, hfile, hbase, hcleared.kept, fun ht l hl => ?_⟩
  · refine read_eq_some_iff.mpr ⟨h.names_file, ?_, ?_⟩
    · rw [approach_of_base hbase]
      exact fun p hp => isDirectory_of_mem_stops hmade hp
    · rw [place_of_base hbase, hfile, if_pos rfl]
  · rw [isDirectory_withContent] at hl
    have hne : l ≠ t.place path := by
      rintro rfl
      simp [hplace] at hl
    rw [hfile, if_neg hne]
    rcases hcleared.new l hl with hold | hnone
    · exact ht l hold
    · exact hnone

variable {rule : Overwrite} {outcome : WriteOutcome}

/-- A file is spared if it holds the bytes of the content, and then only. -/
theorem storeUnder_eq (t : FileTree) (rule : Overwrite) (path content : String) :
    t.storeUnder rule path content =
      if rule = .ifChanged ∧ t.read path = some (bytes content) then (t, .ok .skipped)
      else ((t.store path content).1, (t.store path content).2.map fun _ => .written) := by
  simp only [storeUnder, readText_eq_some_iff]
  rcases t.store path content with ⟨t', _ | _⟩ <;> rfl

theorem storeUnder_of_read (h : t.read path = some (bytes content)) :
    t.storeUnder .ifChanged path content = (t, .ok .skipped) := by
  rw [storeUnder_eq, if_pos ⟨rfl, h⟩]

/-- Where the path can be written, the file has the text afterwards. -/
theorem storeUnder_of_admits (h : t.Admits path)
    (hnew : rule = .ifChanged → t.read path ≠ some (bytes content)) :
    t.storeUnder rule path content =
      ((t.prepared path).withContent (t.place path) (bytes content), .ok .written) := by
  rw [storeUnder_eq, if_neg fun hsame => hnew hsame.1 hsame.2, store_of_admits h]
  rfl

theorem storeUnder_of_not_admits (h : ¬ t.Admits path)
    (hnew : rule = .ifChanged → t.read path ≠ some (bytes content)) :
    ∃ made e, Cleared t made ∧ t.storeUnder rule path content = (made, .error e) := by
  obtain ⟨made, e, hcleared, he⟩ := store_error h content
  refine ⟨made, e, hcleared, ?_⟩
  rw [storeUnder_eq, if_neg fun hsame => hnew hsame.1 hsame.2, he]
  rfl

theorem storeUnder_ok (h : t.storeUnder rule path content = (t', .ok outcome)) :
    t.Written path content t' := by
  by_cases hsame : rule = .ifChanged ∧ t.read path = some (bytes content)
  · obtain ⟨rfl, hread⟩ := hsame
    rw [storeUnder_of_read hread] at h
    cases h
    exact written_of_read hread
  · have hnew : rule = .ifChanged → t.read path ≠ some (bytes content) :=
      fun hrule hread => hsame ⟨hrule, hread⟩
    by_cases hadmits : t.Admits path
    · rw [storeUnder_of_admits hadmits hnew] at h
      cases h
      exact written_of_admits hadmits
    · obtain ⟨made, e, -, he⟩ := storeUnder_of_not_admits hadmits hnew
      rw [he] at h
      cases h

theorem storeUnder_error {e : WriteFailure}
    (h : t.storeUnder rule path content = (t', .error e)) :
    t'.files = t.files ∧ ¬ t.Admits path := by
  have hnew : rule = .ifChanged → t.read path ≠ some (bytes content) := by
    rintro rfl hread
    rw [storeUnder_of_read hread] at h
    cases h
  by_cases hadmits : t.Admits path
  · rw [storeUnder_of_admits hadmits hnew] at h
    cases h
  · obtain ⟨made, e', hcleared, he⟩ := storeUnder_of_not_admits hadmits hnew
    rw [he] at h
    cases h
    exact ⟨hcleared.files, hadmits⟩

/-! Sequences of writes. -/

structure Write where
  rule : Overwrite
  path : String
  content : String

/-- All the writes succeed, one after the other. -/
inductive Wrote : FileTree → List Write → FileTree → Prop
  | nil (t : FileTree) : Wrote t [] t
  | cons {t t' t'' : FileTree} {w : Write} {ws : List Write} {outcome : WriteOutcome}
      (first : t.storeUnder w.rule w.path w.content = (t', .ok outcome))
      (rest : Wrote t' ws t'') : Wrote t (w :: ws) t''

/-- The last of the writes that go to the location. -/
def lastTo (t : FileTree) (ws : List Write) (l : Location) : Option Write :=
  (ws.filter (t.place ·.path = l)).getLast?

theorem lastTo_of_base (h : t'.base = t.base) (ws : List Write) (l : Location) :
    t'.lastTo ws l = t.lastTo ws l := by
  simp only [lastTo, place_of_base h]

theorem lastTo_cons (w : Write) (ws : List Write) : t.lastTo (w :: ws) l =
    (t.lastTo ws l).or (if l = t.place w.path then some w else none) := by
  by_cases h : t.place w.path = l
  · rw [lastTo, List.filter_cons_of_pos (by simpa using h), List.getLast?_cons, if_pos h.symm]
    unfold lastTo
    cases (ws.filter (t.place ·.path = l)).getLast? <;> rfl
  · rw [lastTo, List.filter_cons_of_neg (by simpa using h), if_neg (Ne.symm h), Option.or_none]
    rfl

/-- A file holds the content of the last write that went to it. -/
theorem Wrote.file? {ws : List Write} (h : Wrote t ws t') (l : Location) :
    t'.file? l = ((t.lastTo ws l).map fun w => bytes w.content).or (t.file? l) := by
  induction h with
  | nil t => rfl
  | @cons t t₁ t' w ws outcome first rest ih =>
    have hfirst := storeUnder_ok first
    rw [ih, lastTo_of_base hfirst.base, lastTo_cons, hfirst.file?]
    cases t.lastTo ws l with
    | some v => rfl
    | none => by_cases hl : l = t.place w.path <;> simp [hl]

theorem Wrote.base {ws : List Write} (h : Wrote t ws t') : t'.base = t.base := by
  induction h with
  | nil => rfl
  | cons first rest ih => exact ih.trans (storeUnder_ok first).base

theorem Wrote.kept {ws : List Write} (h : Wrote t ws t') (hm : t.isDirectory m = true) :
    t'.isDirectory m = true := by
  induction h with
  | nil => exact hm
  | cons first rest ih => exact ih ((storeUnder_ok first).kept m hm)

theorem Wrote.consistent {ws : List Write} (h : Wrote t ws t') (ht : t.Consistent) :
    t'.Consistent := by
  induction h with
  | nil => exact ht
  | cons first rest ih => exact ih ((storeUnder_ok first).consistent ht)

/-- A path that was written to leads to a file from then on. -/
theorem Wrote.leads {ws : List Write} (h : Wrote t ws t') {w : Write} (hw : w ∈ ws) :
    Path.wantsDirectory w.path = false ∧ ∀ p ∈ t.approach w.path, t'.isDirectory p = true := by
  induction h with
  | nil => cases hw
  | @cons t t₁ t' v ws outcome first rest ih =>
    have hfirst := storeUnder_ok first
    rcases List.mem_cons.mp hw with rfl | hw
    · obtain ⟨hnames, hway, -⟩ := read_eq_some_iff.mp hfirst.reads
      rw [approach_of_base hfirst.base] at hway
      exact ⟨hnames, fun p hp => rest.kept (hway p hp)⟩
    · rw [← approach_of_base hfirst.base]
      exact ih hw

/-- Of several writes to one place the last counts. -/
theorem Wrote.read {ws : List Write} (h : Wrote t ws t') {w : Write} (hw : w ∈ ws) :
    t'.read w.path = (t.lastTo ws (t.place w.path)).map fun v => bytes v.content := by
  have hmem : w ∈ ws.filter (t.place ·.path = t.place w.path) := by simpa using hw
  obtain ⟨v, hv⟩ : ∃ v, t.lastTo ws (t.place w.path) = some v :=
    ⟨_, List.getLast?_eq_some_getLast (List.ne_nil_of_mem hmem)⟩
  obtain ⟨hnames, hway⟩ := h.leads hw
  rw [hv]
  refine read_eq_some_iff.mpr ⟨hnames, ?_, ?_⟩
  · rwa [approach_of_base h.base]
  · rw [place_of_base h.base, h.file?, hv]
    rfl

/-! The two rules side by side. -/

/-- The rules leave one tree, and skip a file only where it is right already. -/
structure RulesAgree (t : FileTree) (path content : String) : Prop where
  tree : (t.storeUnder .ifChanged path content).1 = (t.storeUnder .always path content).1
  failure : t.Consistent → ∀ e, (t.storeUnder .ifChanged path content).2 = .error e ↔
    (t.storeUnder .always path content).2 = .error e
  skipped_iff : (t.storeUnder .ifChanged path content).2 = .ok .skipped ↔
    t.read path = some (bytes content)
  /-- A file that is no text is written again. -/
  rewritten : t.Consistent → ∀ raw, t.read path = some raw → t.readText path = none →
    (t.storeUnder .ifChanged path content).2 = .ok .written
  never_skipped : (t.storeUnder .always path content).2 ≠ .ok .skipped

/-- What one write does, and when it succeeds. -/
structure WritesOnly (t : FileTree) (rule : Overwrite) (path content : String) : Prop where
  succeeds_iff : t.Consistent →
    ((∃ outcome, (t.storeUnder rule path content).2 = .ok outcome) ↔ t.Admits path)
  success : ∀ t' outcome, t.storeUnder rule path content = (t', .ok outcome) →
    t.Written path content t'
  failure : ∀ t' e, t.storeUnder rule path content = (t', .error e) → t'.files = t.files

/-- The files hold the last of what was written to them, and what they held before otherwise. -/
structure HoldsLast (t : FileTree) (ws : List Write) (t' : FileTree) : Prop where
  reads : ∀ w ∈ ws, t'.read w.path =
    (t.lastTo ws (t.place w.path)).map fun v => bytes v.content
  file? : ∀ l, t'.file? l = ((t.lastTo ws l).map fun w => bytes w.content).or (t.file? l)
  consistent : t.Consistent → t'.Consistent

theorem storeUnder_always (t : FileTree) (path content : String) :
    t.storeUnder .always path content =
      ((t.store path content).1, (t.store path content).2.map fun _ => .written) := by
  rw [storeUnder_eq, if_neg (by simp)]

theorem storeUnder_of_changed (h : t.read path ≠ some (bytes content)) :
    t.storeUnder .ifChanged path content = t.storeUnder .always path content := by
  rw [storeUnder_eq, if_neg fun hsame => h hsame.2, storeUnder_always]

theorem always_ne_skipped : (t.storeUnder .always path content).2 ≠ .ok .skipped := by
  rw [storeUnder_always]
  rcases (t.store path content).2 with _ | _ <;> simp [Except.map]

theorem always_of_admits (h : t.Admits path) :
    (t.storeUnder .always path content).2 = .ok .written := by
  rw [storeUnder_of_admits h (by simp)]

/-- The rules differ in what they report and in nothing that a reader of the files could see. -/
theorem rulesAgree (t : FileTree) (path content : String) : t.RulesAgree path content := by
  by_cases hread : t.read path = some (bytes content)
  · have hskip := storeUnder_of_read hread
    refine ⟨?_, fun ht e => ?_, by simp [hskip, hread], fun ht raw hraw hbad => ?_,
      always_ne_skipped⟩
    · rw [hskip, storeUnder_always, store_of_read hread]
    · rw [hskip, always_of_admits (admits_of_read ht hread)]
      simp
    · rw [readText_eq_some_iff.mpr hread] at hbad
      cases hbad
  · have hsame := storeUnder_of_changed hread
    refine ⟨by rw [hsame], fun _ e => by rw [hsame], ?_, fun ht raw hraw _ => ?_,
      always_ne_skipped⟩
    · rw [hsame]
      simp [always_ne_skipped, hread]
    · rw [hsame, always_of_admits (admits_of_read ht hraw)]

theorem storeUnder_succeeds_iff (rule : Overwrite) (ht : t.Consistent) :
    (∃ outcome, (t.storeUnder rule path content).2 = .ok outcome) ↔ t.Admits path := by
  by_cases hsame : rule = .ifChanged ∧ t.read path = some (bytes content)
  · obtain ⟨rfl, hread⟩ := hsame
    simp [storeUnder_of_read hread, admits_of_read ht hread]
  · have hnew : rule = .ifChanged → t.read path ≠ some (bytes content) :=
      fun hrule hread => hsame ⟨hrule, hread⟩
    by_cases hadmits : t.Admits path
    · simp [storeUnder_of_admits hadmits hnew, hadmits]
    · obtain ⟨made, e, -, he⟩ := storeUnder_of_not_admits hadmits hnew
      simp [he, hadmits]

theorem writesOnly (t : FileTree) (rule : Overwrite) (path content : String) :
    t.WritesOnly rule path content :=
  ⟨storeUnder_succeeds_iff rule, fun _ _ h => storeUnder_ok h, fun _ _ h => (storeUnder_error h).1⟩

theorem Wrote.holdsLast {ws : List Write} (h : Wrote t ws t') : t.HoldsLast ws t' :=
  ⟨fun _ hw => h.read hw, h.file?, h.consistent⟩

end FileTree

/-- In every tree the rule that spares a file that is right already does what the plain rule does,
a write changes the one file that it names or fails and changes none, and in the end each file holds
what was last written to it. -/
theorem conditional_writing_agrees (t : FileTree) :
    (∀ path content, t.RulesAgree path content) ∧
      (∀ rule path content, t.WritesOnly rule path content) ∧
      ∀ ws t', t.Wrote ws t' → t.HoldsLast ws t' :=
  ⟨t.rulesAgree, t.writesOnly, fun _ _ h => h.holdsLast⟩

namespace FileTree

/-- Its one file is no text. -/
def rawTree : FileTree := ⟨[(["out", "a"], [0xff])], [["out"]], [], "/"⟩

theorem consistent_rawTree : rawTree.Consistent := by
  intro l hl
  have hcases : l = [] ∨ l = ["out"] := by simpa [rawTree, isDirectory] using hl
  rcases hcases with rfl | rfl <;> rfl

theorem raw_file_is_rewritten : rawTree.Consistent ∧ rawTree.read "out/a" = some [0xff] ∧
    rawTree.readText "out/a" = none ∧
      (rawTree.storeUnder .ifChanged "out/a" "text").2 = .ok .written := by
  have hread : rawTree.read "out/a" = some [0xff] := by decide
  have hbad : rawTree.readText "out/a" = none := by decide +kernel
  exact ⟨consistent_rawTree, hread, hbad,
    ((conditional_writing_agrees rawTree).1 "out/a" "text").rewritten consistent_rawTree _ hread
      hbad⟩

end FileTree

end BindingTables
