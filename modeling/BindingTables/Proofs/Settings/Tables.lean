import Mathlib.Data.List.Nodup
import BindingTables.Toml.Document

/-! No table of a document has a name twice: each line and each header adds under a new name, or
changes what stands under an old one. -/

namespace BindingTables.Toml

variable {α β : Type} {v : Value} {k : Key} {name : String} {ms ms' inner rest : Members}
  {path : List Key} {span : Span} {origin : Origin} {dotted ofTables : Bool} {vs : List Value}

/-- No table in the value has a name twice. -/
inductive Value.Distinct : Value → Prop
  | text (span : Span) (s : String) : Distinct (.text span s)
  | whole (span : Span) (n : Int) : Distinct (.whole span n)
  | real (span : Span) (shown : String) : Distinct (.real span shown)
  | overflow (span : Span) : Distinct (.overflow span)
  | flag (span : Span) (b : Bool) : Distinct (.flag span b)
  | moment (span : Span) : Distinct (.moment span)
  | list {span : Span} {ofTables : Bool} {items : List Value} :
    (∀ v ∈ items, Distinct v) → Distinct (.list span ofTables items)
  | table {span : Span} {origin : Origin} {members : List (Key × Value)} :
    (members.map (·.1.name)).Nodup → (∀ m ∈ members, Distinct m.2) →
    Distinct (.table span origin members)

theorem distinct_list_iff :
    (Value.list span ofTables vs).Distinct ↔ ∀ v ∈ vs, v.Distinct := by
  constructor
  · intro h
    cases h
    assumption
  · exact .list

namespace Members

/-- Neither these members nor a table in their values have a name twice. -/
structure Distinct (ms : Members) : Prop where
  names : (ms.map (·.1.name)).Nodup
  values : ∀ m ∈ ms, m.2.Distinct

theorem distinct_nil : Distinct [] := ⟨List.nodup_nil, by simp⟩

theorem distinct_table (h : Distinct ms) : (Value.table span origin ms).Distinct :=
  .table h.names h.values

theorem distinct_of_table (h : (Value.table span origin ms).Distinct) : Distinct ms := by
  cases h with
  | table hnames hvalues => exact ⟨hnames, hvalues⟩

theorem find?_eq_none_iff : find? name ms = none ↔ name ∉ ms.map (·.1.name) := by
  fun_induction find? name ms with
  | case1 => simp
  | case2 k v rest hname => simp [hname]
  | case3 k v rest hne ih => simp [ih, Ne.symm hne]

/-- A member of another name does not stand in the way. -/
theorem find?_around {before after : Members} (h : k.name ≠ name) :
    find? name (before ++ (k, v) :: after) = find? name (before ++ after) := by
  induction before with
  | nil => exact if_neg h
  | cons m before ih => simp only [List.cons_append, find?, ih]

theorem mem_of_find? (h : find? name ms = some v) : ∃ k, k.name = name ∧ (k, v) ∈ ms := by
  fun_induction find? name ms with
  | case1 => cases h
  | case2 k w rest hname =>
    cases h
    exact ⟨k, hname, List.mem_cons_self⟩
  | case3 k w rest _ ih =>
    obtain ⟨k', hname, hmem⟩ := ih h
    exact ⟨k', hname, List.mem_cons_of_mem _ hmem⟩

theorem Distinct.find (h : Distinct ms) (hfind : find? name ms = some v) : v.Distinct := by
  obtain ⟨k, -, hmem⟩ := mem_of_find? hfind
  exact h.values _ hmem

/-- A name that is new can be added at the end. -/
theorem Distinct.concat (h : Distinct ms) (hnew : find? k.name ms = none) (hv : v.Distinct) :
    Distinct (ms ++ [(k, v)]) := by
  refine ⟨?_, ?_⟩
  · rw [List.map_append, List.map_singleton, ← List.concat_eq_append, List.nodup_concat]
    exact ⟨find?_eq_none_iff.mp hnew, h.names⟩
  · intro m hm
    rcases List.mem_append.mp hm with hold | hnew
    · exact h.values m hold
    · rw [List.mem_singleton.mp hnew]
      exact hv

theorem names_replace (name : String) (v : Value) (ms : Members) :
    (replace name v ms).map (·.1.name) = ms.map (·.1.name) := by
  rw [replace, List.map_map]
  apply List.map_congr_left
  intro m _
  simp only [Function.comp_apply]
  split <;> rfl

/-- Replacing a value keeps all names. -/
theorem Distinct.replaced (h : Distinct ms) (hv : v.Distinct) : Distinct (replace name v ms) := by
  refine ⟨by rw [names_replace]; exact h.names, ?_⟩
  intro m hm
  obtain ⟨old, hold, rfl⟩ := List.mem_map.mp hm
  split
  · exact hv
  · exact h.values old hold

theorem Distinct.erased (h : Distinct ms) : Distinct (erase name ms) :=
  ⟨h.names.sublist (List.filter_sublist.map _), fun m hm => h.values m (List.mem_of_mem_filter hm)⟩

/-- What a step of `alter` puts in the place of a table is a table again. -/
theorem alter_distinct {change : Origin → Members → Option Members}
    (hchange : ∀ origin inner inner', Distinct inner → change origin inner = some inner' →
      Distinct inner')
    (h : Distinct ms) (halter : alter dotted change origin path ms = some ms') : Distinct ms' := by
  -- the path leads through a new table, a table, or the last table of a list
  fun_induction alter dotted change origin path ms generalizing ms' with
  | case1 origin ms => exact hchange _ _ _ h halter
  | case2 origin k path ms made hnone =>
    rename_i ih
    obtain ⟨inner, hinner, rfl⟩ := Option.map_eq_some_iff.mp halter
    exact h.concat hnone (distinct_table (ih distinct_nil hinner))
  | case3 => cases halter
  | case4 origin k path ms span origin' inner hfind _ ih =>
    obtain ⟨inner', hinner, rfl⟩ := Option.map_eq_some_iff.mp halter
    exact h.replaced (distinct_table (ih (distinct_of_table (h.find hfind)) hinner))
  | case5 origin k path ms span items hfind last origin' inner before hlast ih =>
    obtain ⟨inner', hinner, rfl⟩ := Option.map_eq_some_iff.mp halter
    have hitems := h.find hfind
    rw [List.reverse_eq_cons_iff.mp hlast, distinct_list_iff, List.forall_mem_append,
      List.forall_mem_singleton] at hitems
    have hinner' := ih (distinct_of_table hitems.2) hinner
    apply h.replaced
    rw [distinct_list_iff, List.forall_mem_append, List.forall_mem_singleton]
    exact ⟨hitems.1, distinct_table hinner'⟩
  | case6 => cases halter
  | case7 => cases halter

theorem add?_distinct (h : Distinct ms) (hv : v.Distinct) (hadd : add? k v ms = some ms') :
    Distinct ms' := by
  unfold add? at hadd
  split at hadd
  · cases hadd
    exact h.concat ‹_› hv
  · cases hadd

/-- A dotted key opens the tables on its way, each under a name that is new or already a table. -/
theorem addDotted?_distinct (h : Distinct ms) (hv : v.Distinct)
    (hadd : addDotted? path k v ms = some ms') : Distinct ms' := by
  apply alter_distinct _ h hadd
  intro origin inner inner' hinner hchange
  split at hchange
  · cases hchange
  · exact add?_distinct hinner hv hchange

theorem closeTable?_distinct (h : Distinct ms) (hinner : Distinct inner)
    (hclose : closeTable? ms path k span inner = some ms') : Distinct ms' := by
  apply alter_distinct _ h hclose
  intro origin old new hold hchange
  exact add?_distinct hold (distinct_table hinner) hchange

theorem closeItem?_distinct (h : Distinct ms) (hinner : Distinct inner)
    (hclose : closeItem? ms path k span inner = some ms') : Distinct ms' := by
  apply alter_distinct _ h hclose
  intro origin old new hold hchange
  split at hchange
  · cases hchange
    apply hold.concat ‹_›
    rw [distinct_list_iff, List.forall_mem_singleton]
    exact distinct_table hinner
  · rename_i first items hfind
    cases hchange
    apply hold.replaced
    rw [distinct_list_iff, List.forall_mem_append, List.forall_mem_singleton]
    exact ⟨distinct_list_iff.mp (hold.find hfind), distinct_table hinner⟩
  · cases hchange

/-- A walk from table to table ends at one, if its steps do. -/
theorem foldl_distinct {step : Members → Key → Option Members} {found : Option Members}
    (hstep : ∀ ms k ms', Distinct ms → step ms k = some ms' → Distinct ms')
    (hfound : ∀ ms, found = some ms → Distinct ms)
    (hwalk : path.foldl (fun found k => found.bind fun ms => step ms k) found = some ms') :
    Distinct ms' := by
  induction path generalizing found with
  | nil => exact hfound ms' hwalk
  | cons k path ih =>
    apply ih _ hwalk
    intro ms h
    obtain ⟨before, hbefore, hnext⟩ := Option.bind_eq_some_iff.mp h
    exact hstep before k ms (hfound before hbefore) hnext

/-- A header moves what it opens out of the tables that are kept. -/
theorem openTable?_distinct {kept rest : Members} (h : Distinct ms)
    (hopen : openTable? path k ms = some (kept, rest)) : Distinct kept ∧ Distinct rest := by
  unfold openTable? at hopen
  simp only [Option.bind_eq_bind, Option.bind_eq_some_iff] at hopen
  obtain ⟨rest', hrest, -, -, hfound⟩ := hopen
  -- what stays behind is without the table that is opened
  have hrest' : Distinct rest' := by
    apply alter_distinct _ h hrest
    intro origin inner inner' hinner hchange
    cases hchange
    exact hinner.erased
  split at hfound
  · rename_i span origin kept' hkept
    cases hfound
    obtain ⟨last, hlast, hfind⟩ := Option.bind_eq_some_iff.mp hkept
    have hlast' : Distinct last := by
      apply foldl_distinct _ _ hlast
      · intro ms k ms' hms hstep
        split at hstep
        · cases hstep
          exact distinct_of_table (hms.find ‹_›)
        · rename_i span items hitems
          split at hstep
          · rename_i last origin inner hinner
            cases hstep
            have hlist := distinct_list_iff.mp (hms.find hitems)
            exact distinct_of_table (hlist _ (List.mem_of_getLast? hinner))
          · cases hstep
        · cases hstep
      · rintro ms ⟨⟩
        exact h
    exact ⟨distinct_of_table (hlast'.find hfind), hrest'⟩
  · cases hfound
    exact ⟨distinct_nil, hrest'⟩

end Members

variable {p : Parser α} {P : α → Prop} {Q : β → Prop}

/-- What the parser gives satisfies `P`, wherever it starts. -/
def Yields (p : Parser α) (P : α → Prop) : Prop :=
  ∀ cursor a after, p cursor = some (a, after) → P a

theorem yields_pure {a : α} (h : P a) : Yields (pure a) P := by
  intro cursor b after hb
  cases hb
  exact h

theorem yields_failure : Yields failure P := by
  intro cursor a after h
  cases h

theorem Yields.bind {next : α → Parser β} (h : Yields p P) (hnext : ∀ a, P a → Yields (next a) Q) :
    Yields (p >>= next) Q := by
  intro cursor b after hb
  obtain ⟨⟨a, between⟩, ha, hb⟩ := Option.bind_eq_some_iff.mp hb
  exact hnext a (h cursor a between ha) between b after hb

/-- It need not matter what comes first. -/
theorem yields_bind {next : α → Parser β} (hnext : ∀ a, Yields (next a) Q) :
    Yields (p >>= next) Q := by
  have htrue : Yields p fun _ => True := fun _ _ _ _ => trivial
  exact htrue.bind fun a _ => hnext a

theorem Yields.spanned (h : Yields p P) : Yields (spanned p) fun r => P r.1 :=
  yields_bind fun _ => h.bind fun _ ha => yields_bind fun _ => yields_pure ha

theorem items_yields {add : α → Parser α} {close : Char} (fuel : Nat)
    (hadd : ∀ a, P a → Yields (add a) P) {a : α} (ha : P a) :
    Yields (items close add fuel a) P := by
  induction fuel generalizing a with
  | zero => exact yields_failure
  | succ fuel ih =>
    unfold items
    refine yields_bind fun _ => yields_bind fun closed => ?_
    split
    · exact yields_pure ha
    · refine (hadd a ha).bind fun b hb => yields_bind fun _ => yields_bind fun closed => ?_
      split
      · exact yields_pure hb
      · exact yields_bind fun _ => ih hb

theorem scalar_distinct : Yields scalar Value.Distinct := by
  unfold scalar
  refine yields_bind fun r => ?_
  dsimp only
  split
  · exact yields_pure (.flag _ _)
  · exact yields_pure (.flag _ _)
  · split
    · exact yields_pure (.moment _)
    · split
      · exact yields_pure (.whole _ _)
      · exact yields_pure (.real _ _)
      · split
        · apply yields_pure
          split
          · exact .overflow _
          · exact .real _ _
        · exact yields_failure

theorem value_distinct (fuel : Nat) : Yields (value fuel) Value.Distinct := by
  induction fuel with
  | zero => exact yields_failure
  | succ fuel ih =>
    unfold value
    refine yields_bind fun c => ?_
    split
    · exact yields_bind fun _ => yields_pure (.text _ _)
    · exact yields_bind fun _ => yields_pure (.text _ _)
    · refine Yields.bind (Yields.spanned (P := fun l => ∀ v ∈ l, v.Distinct) ?_) fun r hr => ?_
      · refine yields_bind fun _ => items_yields _ ?_ (by simp)
        intro l hl
        exact ih.bind fun v hv => yields_pure (List.forall_mem_cons.mpr ⟨hv, hl⟩)
      · exact yields_pure (distinct_list_iff.mpr fun v hv => hr v (List.mem_reverse.mp hv))
    · refine Yields.bind (Yields.spanned (P := Members.Distinct) ?_) fun r hr => ?_
      · refine yields_bind fun _ => items_yields _ ?_ Members.distinct_nil
        intro ms hms
        refine yields_bind fun key => yields_bind fun _ => yields_bind fun _ => ?_
        refine ih.bind fun v hv => ?_
        split
        · exact yields_pure (Members.addDotted?_distinct hms hv ‹_›)
        · exact yields_failure
      · exact yields_pure (Members.distinct_table hr)
    · exact scalar_distinct

/-- Neither the finished tables of the draft nor the one it adds to have a name twice. -/
structure Draft.Distinct (d : Draft) : Prop where
  root : Members.Distinct d.root
  table : Members.Distinct d.table

theorem Draft.Distinct.close {d : Draft} (h : d.Distinct) (hclose : d.close = some ms) :
    Members.Distinct ms := by
  unfold Draft.close at hclose
  split at hclose
  · cases hclose
    exact h.table
  · split at hclose
    · exact Members.closeItem?_distinct h.root h.table hclose
    · exact Members.closeTable?_distinct h.root h.table hclose

theorem Draft.Distinct.openHeader {d d' : Draft} {header : Header} (h : d.Distinct)
    (hopen : d.openHeader header = some d') : d'.Distinct := by
  unfold Draft.openHeader at hopen
  obtain ⟨root, hclose, hrest⟩ := Option.bind_eq_some_iff.mp hopen
  have hroot := h.close hclose
  split at hrest
  · cases hrest
    exact ⟨hroot, Members.distinct_nil⟩
  · obtain ⟨⟨kept, root'⟩, htable, hmade⟩ := Option.bind_eq_some_iff.mp hrest
    cases hmade
    obtain ⟨hkept, hroot'⟩ := Members.openTable?_distinct hroot htable
    exact ⟨hroot', hkept⟩

/-- Each line and each header leaves a draft without a name twice, and so do all of them. -/
theorem lines_distinct (fuel : Nat) {d : Draft} (h : d.Distinct) :
    Yields (lines fuel d) Draft.Distinct := by
  induction fuel generalizing d with
  | zero => exact yields_pure h
  | succ fuel ih =>
    unfold lines
    refine yields_bind fun _ => yields_bind fun ended => ?_
    split
    · exact yields_pure h
    · refine yields_bind fun c => ?_
      split
      · exact yields_bind fun _ => ih h
      · exact yields_bind fun _ => ih h
      · exact yields_bind fun _ => ih h
      · refine yields_bind fun header => yields_bind fun _ => ?_
        split
        · exact ih (h.openHeader ‹_›)
        · exact yields_failure
      · refine yields_bind fun key => yields_bind fun _ => yields_bind fun _ => ?_
        refine (value_distinct fuel).bind fun v hv => yields_bind fun _ => ?_
        split
        · exact ih ⟨h.root, Members.addDotted?_distinct h.table hv ‹_›⟩
        · exact yields_failure

/-- A table of a document has no name twice, however the document is laid out. -/
theorem distinct_of_document? {source : String} (h : document? source = some ms) :
    Members.Distinct ms := by
  unfold document? at h
  dsimp only at h
  split at h
  · rename_i d after hlines
    have hd : d.Distinct :=
      lines_distinct _ ⟨Members.distinct_nil, Members.distinct_nil⟩ _ d after hlines
    exact hd.close h
  · cases h

end BindingTables.Toml
