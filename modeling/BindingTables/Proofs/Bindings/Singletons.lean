import BindingTables.Proofs.Statistics.Counting
import BindingTables.Proofs.Validation.FirstFault

/-! Singletons are neither lost nor duplicated: of a well-formed API, each one whose class is bound
stands once in the tables, in that of its class. -/

namespace BindingTables

variable {api : Api} {o : Options} {file source type : String} {t : ClassBinding}

/-- The type is a class that the API declares and the options do not skip. -/
def Options.Binds (o : Options) (api : Api) (type : String) : Prop :=
  type ∉ o.skipClasses ∧ type ∈ (api.builtinClasses ++ api.classes).map (·.name)

instance (o : Options) (api : Api) : DecidablePred (o.Binds api) :=
  fun type => inferInstanceAs (Decidable (type ∉ o.skipClasses ∧
    type ∈ (api.builtinClasses ++ api.classes).map (·.name)))

/-- The singletons in the tables, as instances of the classes in whose tables they are. -/
def Bindings.heldSingletons (b : Bindings) : List Singleton :=
  b.allClasses.flatMap fun t => t.singletons.map (⟨·, t.name⟩)

/-- The tables hold the singletons that the API declares of the classes that the options bind. -/
structure Bindings.AccountsForSingletons (api : Api) (o : Options) (b : Bindings) : Prop where
  /-- A bound class has one table, with its singletons in the order of their declaration. -/
  bound : ∀ type, o.Binds api type → ∃ t, b.allClasses.filter (·.name = type) = [t] ∧
    t.singletons = (api.singletons.filter (·.type = type)).map (·.name)
  unbound : ∀ type, ¬ o.Binds api type → ∀ t ∈ b.allClasses, t.name ≠ type
  held : b.heldSingletons.Perm (api.singletons.filter (o.Binds api ·.type))

/-- Elements filed under distinct keys are all filed, and each but once. -/
theorem flatMap_filter_perm {α κ : Type} [DecidableEq κ] (key : α → κ) {keys : List κ}
    (h : keys.Nodup) (l : List α) :
    (keys.flatMap fun k => l.filter (key · = k)).Perm (l.filter (key · ∈ keys)) := by
  induction keys with
  | nil => simp
  | cons k keys ih =>
    obtain ⟨hk, hkeys⟩ := List.nodup_cons.mp h
    have hown : (l.filter (key · ∈ k :: keys)).filter (key · = k) = l.filter (key · = k) := by
      rw [List.filter_filter]
      refine List.filter_congr fun a _ => ?_
      by_cases ha : key a = k <;> simp [ha]
    have hothers : (l.filter (key · ∈ k :: keys)).filter (fun a => !decide (key a = k))
        = l.filter (key · ∈ keys) := by
      rw [List.filter_filter]
      refine List.filter_congr fun a _ => ?_
      by_cases ha : key a = k <;> simp [ha, hk]
    have hsplit := List.filter_append_perm (key · = k) (l.filter (key · ∈ k :: keys))
    rw [hown, hothers] at hsplit
    exact ((ih hkeys).append_left _).trans hsplit

/-- Of elements with distinct names, a name finds one. -/
theorem filter_eq_singleton {α : Type} {name : α → String} {l : List α} {a : α}
    (h : (l.map name).Nodup) (ha : a ∈ l) : l.filter (name · = name a) = [a] := by
  induction l with
  | nil => cases ha
  | cons b l ih =>
    obtain ⟨hb, hl⟩ := List.nodup_cons.mp h
    rcases List.mem_cons.mp ha with rfl | hmem
    · have hnone : l.filter (name · = name a) = [] := by
        rw [List.filter_eq_nil_iff]
        intro c hc hname
        exact hb (of_decide_eq_true hname ▸ List.mem_map_of_mem hc)
      rw [List.filter_cons_of_pos (by simp), hnone]
    · have hne : name b ≠ name a := fun hname => hb (hname ▸ List.mem_map_of_mem hmem)
      rw [List.filter_cons_of_neg (by simpa using hne), ih hl hmem]

namespace Api

theorem names_lower : (api.lower o).allClasses.map (·.name)
    = (o.boundClasses api).map (·.2.name) := by
  rw [allClasses_lower, List.map_map]
  rfl

theorem mem_names_lower_iff :
    type ∈ (api.lower o).allClasses.map (·.name) ↔ o.Binds api type := by
  rw [names_lower, Options.Binds, ← map_sectionedClasses, List.map_map]
  simp only [Options.boundClasses, List.mem_map, List.mem_filter, Function.comp_apply]
  constructor
  · rintro ⟨c, ⟨hc, hkept⟩, rfl⟩
    exact ⟨by simpa [Options.skips] using hkept, c, hc, rfl⟩
  · rintro ⟨hkept, c, hc, rfl⟩
    exact ⟨c, ⟨hc, by simpa [Options.skips] using hkept⟩, rfl⟩

/-- No two classes of a well-formed API have tables of one name. -/
theorem names_lower_nodup (h : api.WellFormed) :
    ((api.lower o).allClasses.map (·.name)).Nodup := by
  have hnames := h.names_nodup
  rw [← map_sectionedClasses, List.map_map] at hnames
  rw [names_lower]
  exact hnames.sublist (List.filter_sublist.map _)

theorem singletons_of_mem_lower (ht : t ∈ (api.lower o).allClasses) :
    t.singletons = (api.singletons.filter (·.type = t.name)).map (·.name) := by
  rw [allClasses_lower] at ht
  obtain ⟨c, -, rfl⟩ := List.mem_map.mp ht
  rfl

/-- A table files the declared singletons under the name of its class. -/
theorem heldSingletons_lower : (api.lower o).heldSingletons =
    ((api.lower o).allClasses.map (·.name)).flatMap fun n =>
      api.singletons.filter (·.type = n) := by
  rw [Bindings.heldSingletons, List.flatMap_map]
  refine List.flatMap_congr fun t ht => ?_
  rw [singletons_of_mem_lower ht, List.map_map]
  calc (api.singletons.filter (·.type = t.name)).map ((⟨·, t.name⟩) ∘ (·.name))
      = (api.singletons.filter (·.type = t.name)).map id := by
        refine List.map_congr_left fun s hs => ?_
        have htype : s.type = t.name := by simpa using (List.mem_filter.mp hs).2
        rw [Function.comp_apply, ← htype, id]
    _ = api.singletons.filter (·.type = t.name) := List.map_id _

theorem heldSingletons_perm (h : api.WellFormed) :
    (api.lower o).heldSingletons.Perm (api.singletons.filter (o.Binds api ·.type)) := by
  rw [heldSingletons_lower]
  refine (flatMap_filter_perm (·.type) (names_lower_nodup h) api.singletons).trans ?_
  rw [List.filter_congr fun s _ => decide_eq_decide.mpr mem_names_lower_iff]

theorem accountsForSingletons_lower (h : api.WellFormed) :
    (api.lower o).AccountsForSingletons api o := by
  refine ⟨?_, ?_, heldSingletons_perm h⟩
  · intro type hbound
    obtain ⟨t, ht, rfl⟩ := List.mem_map.mp (mem_names_lower_iff.mpr hbound)
    exact ⟨t, filter_eq_singleton (names_lower_nodup h) ht, singletons_of_mem_lower ht⟩
  · rintro type hbound t ht rfl
    exact hbound (mem_names_lower_iff.mp (List.mem_map_of_mem ht))

theorem length_heldSingletons (b : Bindings) :
    b.heldSingletons.length = total (b.allClasses.map (·.singletons.length)) := by
  simp [Bindings.heldSingletons, total_eq_sum]

theorem singletons_of_counts (h : api.WellFormed) {s : Statistics}
    (hs : s.Counts api o (api.lower o)) :
    s.singletons = api.singletons.countP (o.Binds api ·.type) := by
  calc s.singletons
      = (api.lower o).heldSingletons.length := hs.singletons.trans (length_heldSingletons _).symm
    _ = (api.singletons.filter (o.Binds api ·.type)).length := (heldSingletons_perm h).length_eq
    _ = api.singletons.countP (o.Binds api ·.type) := List.countP_eq_length_filter.symm

end Api

/-- Of a dump that passes validation, the tables hold each singleton of a bound class once, in the
table of that class, and no others; the statistics count just these. -/
theorem singletons_accounted (api : Api) (o : Options) (file source : String)
    (h : api.validate file source = .ok ()) :
    (api.lower o).AccountsForSingletons api o ∧
      ∃ s, Statistics.compute? api o (api.lower o) = some s ∧
        s.singletons = api.singletons.countP (o.Binds api ·.type) := by
  have hwell := Api.validate_eq_ok_iff.mp h
  obtain ⟨s, hs⟩ := Statistics.exists_compute?_lower api o
  have hcounts := Statistics.compute?_eq_some_iff.mp hs
  exact ⟨Api.accountsForSingletons_lower hwell, s, hs, Api.singletons_of_counts hwell hcounts⟩

namespace Class

/-- A class that declares nothing but its name. -/
def named (name : String) : Class := ⟨name, none, false, true, [], [], [], []⟩

/-- Of its singletons two are of one class, two have one name, one is of a class that is skipped and
one of a class that no section declares. -/
def serverApi : Api where
  header := none
  globalEnums := []
  utilityFunctions := []
  builtinClasses := [named "int", named "RID"]
  classes := [named "Object", named "Server"]
  singletons := [⟨"Main", "Server"⟩, ⟨"One", "int"⟩, ⟨"Backup", "Server"⟩, ⟨"Main", "Object"⟩,
    ⟨"Ghost", "Phantom"⟩]

theorem server_singletons_accounted :
    serverApi.validate "api.json" "" = .ok () ∧
      (serverApi.lower .standard).AccountsForSingletons serverApi .standard ∧
      ∃ s, Statistics.compute? serverApi .standard (serverApi.lower .standard) = some s ∧
        s.singletons = serverApi.singletons.countP (Options.standard.Binds serverApi ·.type) :=
  ⟨rfl, singletons_accounted serverApi .standard "api.json" "" rfl⟩

end Class

end BindingTables
