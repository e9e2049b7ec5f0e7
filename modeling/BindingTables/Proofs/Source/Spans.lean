import BindingTables.Proofs.Source.Labels
import BindingTables.Proofs.Text.Bytes

/-! The span of a declaration holds the name behind a key, no two declarations share a span, and
their count has no gaps. -/

namespace BindingTables

open BindingTables.Text

variable {source name : String} {span a b : Span} {key key' before before' : List Char} {m n : Nat}

/-- A name key up to the opening quote of its value, with one space behind the colon or none. -/
def openings : List String := ["\"name\": \"", "\"name\":\""]

/-- The span lies in the source, its bytes are the name, and the name is quoted behind a key. -/
structure Span.Holds (span : Span) (source name : String) : Prop where
  within : span.start + span.length ≤ (bytes source).length
  covered : ((bytes source).drop span.start).take span.length = bytes name
  opened : ∃ opening ∈ openings, bytes opening <:+ (bytes source).take span.start
  closed : bytes "\"" <+: (bytes source).drop (span.start + span.length)

/-- Somewhere in the source the name is quoted behind a key. -/
def IsDeclared (source name : String) : Prop :=
  ∃ opening ∈ openings, opening.toList ++ name.toList ++ ['"'] <:+: source.toList

theorem map_nameKeys : nameKeys.map (fun key => String.ofList (key ++ ['"'])) = openings := by
  decide

theorem opening_mem (hkey : key ∈ nameKeys) : String.ofList (key ++ ['"']) ∈ openings := by
  rw [← map_nameKeys]
  exact List.mem_map_of_mem hkey

/-- The last character of a key tells it from the other. -/
theorem nameKey_unique (hkey : key ∈ nameKeys) (hkey' : key' ∈ nameKeys)
    (h : key.getLast? = key'.getLast?) : key = key' := by
  have hall : ∀ k ∈ nameKeys, ∀ k' ∈ nameKeys, k.getLast? = k'.getLast? → k = k' := by decide
  exact hall key hkey key' hkey' h

theorem holds_of_bytes {front back : List UInt8} {opening : String} (hopening : opening ∈ openings)
    (h : bytes source = front ++ bytes opening ++ bytes name ++ bytes "\"" ++ back)
    (hstart : span.start = (front ++ bytes opening).length)
    (hlength : span.length = (bytes name).length) : span.Holds source name := by
  have hstop : span.start + span.length = (front ++ bytes opening ++ bytes name).length := by
    rw [hstart, hlength]
    exact List.length_append.symm
  refine ⟨?_, ?_, ⟨opening, hopening, ?_⟩, ?_⟩
  · rw [hstop, h]
    simp only [List.length_append]
    omega
  · rw [h, List.append_assoc _ (bytes "\""), List.append_assoc _ (bytes name), hstart,
      List.drop_left, hlength, List.take_left]
  · rw [h, List.append_assoc _ (bytes "\""), List.append_assoc _ (bytes name), hstart,
      List.take_left]
    exact List.suffix_append front _
  · rw [h, List.append_assoc _ (bytes "\"") back, hstop, List.drop_left]
    exact List.prefix_append _ back

/-- Where a declaration stands: behind the text before its key, the key and a quote. -/
theorem Declares.exists_place (h : Declares source name n span) : ∃ key ∈ nameKeys, ∃ before,
    NthAt (spelled key name) n source.toList before ∧
      span = ⟨byteSize (before ++ key ++ ['"']), byteSize name.toList⟩ := by
  obtain ⟨others, key, more, before, hkeys, -, hat, rfl⟩ := h
  have hquote : byteSize ['"'] = 1 := by decide
  refine ⟨key, by simp [hkeys], before, hat, ?_⟩
  rw [byteSize_append, byteSize_append, hquote]

theorem Declares.holds (h : Declares source name n span) : span.Holds source name := by
  obtain ⟨key, hkey, before, hat, rfl⟩ := h.exists_place
  obtain ⟨after, hafter⟩ := hat.occurs
  have hsource : source.toList = before ++ (key ++ ['"']) ++ name.toList ++ ['"'] ++ after := by
    simp [← hafter, spelled]
  have hquote : "\"".toList = ['"'] := rfl
  have hbytes : bytes source = bytes (.ofList before) ++ bytes (.ofList (key ++ ['"'])) ++
      bytes name ++ bytes "\"" ++ bytes (.ofList after) := by
    simp only [bytes, hsource, hquote, String.toList_ofList, List.flatMap_append]
  apply holds_of_bytes (opening_mem hkey) hbytes
  · rw [← bytes_ofList_append, length_bytes, String.toList_ofList, List.append_assoc]
  · rw [length_bytes]

theorem NthAt.quote_occurs (h : NthAt (spelled key name) n source.toList before) :
    before ++ key ++ ['"'] <+: source.toList := by
  refine List.IsPrefix.trans ⟨name.toList ++ ['"'], ?_⟩ h.occurs
  simp [spelled]

/-- The quote before a declared name stands behind one key only. -/
theorem NthAt.key_unique (hkey : key ∈ nameKeys) (hkey' : key' ∈ nameKeys)
    (h : NthAt (spelled key name) m source.toList before)
    (h' : NthAt (spelled key' name) n source.toList before')
    (hsize : byteSize (before ++ key ++ ['"']) = byteSize (before' ++ key' ++ ['"'])) :
    key = key' ∧ before = before' := by
  have hle := prefix_of_byteSize_le h.quote_occurs h'.quote_occurs (Nat.le_of_eq hsize)
  have hge := prefix_of_byteSize_le h'.quote_occurs h.quote_occurs (Nat.le_of_eq hsize.symm)
  have hsame := hle.eq_of_length (Nat.le_antisymm hle.length_le hge.length_le)
  rw [List.append_cancel_right_eq] at hsame
  have hne : ∀ k ∈ nameKeys, k ≠ [] := by decide
  have hlast := congrArg List.getLast? hsame
  rw [List.getLast?_append_of_ne_nil _ (hne key hkey),
    List.getLast?_append_of_ne_nil _ (hne key' hkey')] at hlast
  obtain rfl := nameKey_unique hkey hkey' hlast
  exact ⟨rfl, List.append_cancel_right hsame⟩

theorem Declares.ne_of_ne (h : Declares source name m a) (h' : Declares source name n b)
    (hmn : m ≠ n) : a ≠ b := by
  rintro rfl
  obtain ⟨key, hkey, before, hat, rfl⟩ := h.exists_place
  obtain ⟨key', hkey', before', hat', hspan⟩ := h'.exists_place
  obtain ⟨rfl, rfl⟩ := hat.key_unique hkey hkey' hat' (Span.mk.inj hspan).1
  have hp := spelled_ne_nil key name
  rcases Nat.lt_or_gt_of_ne hmn with hlt | hgt
  · exact absurd (hat.byteSize_lt hp hat' hlt) (Nat.lt_irrefl _)
  · exact absurd (hat'.byteSize_lt hp hat hgt) (Nat.lt_irrefl _)

theorem isSome_declaration?_of_lt (h : (declaration? source name n).isSome) (hm : m < n) :
    (declaration? source name m).isSome := by
  rw [isSome_declaration?_iff] at h ⊢
  obtain ⟨key, hkey, place, hat⟩ := h
  exact ⟨key, hkey, hat.exists_of_le (Nat.le_of_lt hm)⟩

theorem isSome_declaration?_zero_iff :
    (declaration? source name 0).isSome ↔ IsDeclared source name := by
  have hzero (key : List Char) : (∃ place, NthAt (spelled key name) 0 source.toList place) ↔
      (String.ofList (key ++ ['"'])).toList ++ name.toList ++ ['"'] <:+: source.toList := by
    rw [String.toList_ofList, List.append_assoc key, ← exists_firstAt_iff (by simp)]
    exact ⟨fun ⟨place, h⟩ => ⟨place, h.firstAt⟩, fun ⟨place, h⟩ => ⟨place, .first h⟩⟩
  rw [isSome_declaration?_iff, IsDeclared, ← map_nameKeys]
  simp only [hzero, List.mem_map, exists_exists_and_eq_and]

/-- Whatever the source is, a declaration that is found is one, and is found once; the first is
found if there is any, so the second label of a class declared twice never stands alone. -/
theorem declaration_spans_sound (source name : String) :
    (∀ n span, declaration? source name n = some span → span.Holds source name) ∧
    (∀ m n a b, m ≠ n → declaration? source name m = some a → declaration? source name n = some b →
      a ≠ b) ∧
    (∀ n, (declaration? source name n).isSome → ∀ m < n, (declaration? source name m).isSome) ∧
    ((declaration? source name 0).isSome ↔ IsDeclared source name) ∧
    ∀ file shown first second,
      Api.parse file source = .error (.duplicateClass shown name first second) →
      second.isSome → first.isSome := by
  refine ⟨?_, ?_, ?_, isSome_declaration?_zero_iff, ?_⟩
  · intro n span h
    exact (declaration?_eq_some_iff.mp h).holds
  · intro m n a b hmn ha hb
    exact (declaration?_eq_some_iff.mp ha).ne_of_ne (declaration?_eq_some_iff.mp hb) hmn
  · intro n h m hm
    exact isSome_declaration?_of_lt h hm
  · intro file shown first second h hsecond
    obtain ⟨api, -, hvalid⟩ := validate_of_parse h (by simp)
    obtain ⟨site, hfault⟩ := Api.validate_eq_error_iff.mp hvalid
    obtain ⟨-, -, -, -, rfl, rfl⟩ := firstTwo_of_duplicateClass hfault
    exact isSome_declaration?_of_lt hsecond Nat.zero_lt_one

/-- A class that is declared three times, first with a space behind the colon. -/
def mixedDump : String :=
  "\x7b\"classes\":[\x7b\"name\": \"Né\"\x7d,\x7b\"name\":\"Né\"\x7d," ++
    "\x7b\"name\":\"Né\"\x7d]\x7d"

theorem mixed_declaration_spans_sound :
    declaration? mixedDump "Né" 0 = some ⟨22, 3⟩ ∧ declaration? mixedDump "Né" 1 = some ⟨52, 3⟩ ∧
      (⟨22, 3⟩ : Span).Holds mixedDump "Né" ∧ (⟨52, 3⟩ : Span).Holds mixedDump "Né" ∧
      (⟨22, 3⟩ : Span) ≠ ⟨52, 3⟩ ∧ (declaration? mixedDump "Né" 0).isSome ∧
      IsDeclared mixedDump "Né" ∧
      Api.parse "api.json" mixedDump
        = .error (.duplicateClass "api.json" "Né" (some ⟨22, 3⟩) (some ⟨52, 3⟩)) ∧
      (some (⟨22, 3⟩ : Span)).isSome := by
  have hfirst : declaration? mixedDump "Né" 0 = some ⟨22, 3⟩ := by cbv
  have hsecond : declaration? mixedDump "Né" 1 = some ⟨52, 3⟩ := by cbv
  have hparse : Api.parse "api.json" mixedDump
      = .error (.duplicateClass "api.json" "Né" (some ⟨22, 3⟩) (some ⟨52, 3⟩)) := by cbv
  obtain ⟨hholds, hdiffer, hcount, hquoted, hlabels⟩ := declaration_spans_sound mixedDump "Né"
  exact ⟨hfirst, hsecond, hholds 0 _ hfirst, hholds 1 _ hsecond,
    hdiffer 0 1 _ _ Nat.zero_ne_one hfirst hsecond,
    hcount 1 (by rw [hsecond]; rfl) 0 Nat.zero_lt_one, hquoted.mp (by rw [hfirst]; rfl), hparse,
    hlabels "api.json" "api.json" _ _ hparse rfl⟩

end BindingTables
