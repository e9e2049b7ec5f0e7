import BindingTables.Text.Split

/-! The bytes of a text in UTF-8: the byte of an ASCII character stands for that character alone, so
that a text can be cut behind it. -/

namespace BindingTables.Text

variable {s t : String} {cs ds front back : List Char} {a c : Char} {b : UInt8} {k : Nat}

theorem length_encoded (cs : List Char) :
    (cs.flatMap String.utf8EncodeChar).length = byteSize cs := by
  induction cs with
  | nil => rfl
  | cons c cs ih =>
    rw [List.flatMap_cons, List.length_append, String.length_utf8EncodeChar, byteSize, ih]

theorem length_bytes (s : String) : (bytes s).length = byteSize s.toList := length_encoded s.toList

theorem toByteArray_bytes (s : String) : (bytes s).toByteArray = s.toByteArray := by
  rw [← String.utf8Encode_toList, List.utf8Encode, bytes]

theorem bytes_inj : bytes s = bytes t ↔ s = t := by
  rw [← List.toByteArray_inj, toByteArray_bytes, toByteArray_bytes, String.toByteArray_inj]

theorem bytes_ofList_append (front cs : List Char) :
    bytes (.ofList (front ++ cs)) = bytes (.ofList front) ++ bytes (.ofList cs) := by
  simp only [bytes, String.toList_ofList, List.flatMap_append]

theorem rawEndPos_eq (s : String) : s.rawEndPos = ⟨byteSize s.toList⟩ := by
  rw [← length_bytes, ← List.size_toByteArray, toByteArray_bytes]
  rfl

/-- A text can be cut behind any of its characters. -/
theorem isValid_byteSize (h : s.toList = front ++ cs) :
    (⟨byteSize front⟩ : String.Pos.Raw).IsValid s := by
  rw [String.Pos.Raw.isValid_iff_exists_append]
  refine ⟨.ofList front, .ofList cs, ?_, ?_⟩
  · rw [← String.toList_inj, String.toList_append, String.toList_ofList, String.toList_ofList, h]
  · rw [rawEndPos_eq, String.toList_ofList]

theorem encoded_ascii (ha : a.toNat ≤ 127) : String.utf8EncodeChar a = [a.toNat.toUInt8] := by
  rw [String.utf8EncodeChar]
  exact if_pos ha

theorem bytes_of_ascii (h : ∀ c ∈ cs, c.toNat ≤ 127) :
    bytes (.ofList cs) = cs.map fun c => c.toNat.toUInt8 := by
  rw [bytes, String.toList_ofList]
  induction cs with
  | nil => rfl
  | cons c cs ih =>
    rw [List.forall_mem_cons] at h
    rw [List.flatMap_cons, encoded_ascii h.1, ih h.2]
    rfl

/-- The bytes of other characters are beyond ASCII, each of them. -/
theorem high_of_mem_encoded (hc : 127 < c.toNat) (hb : b ∈ String.utf8EncodeChar c) :
    127 < b.toNat := by
  have hv : ¬ c.val.toNat ≤ 127 := Nat.not_le.mpr hc
  simp only [String.utf8EncodeChar, if_neg hv] at hb
  split at hb
  · simp only [List.mem_cons, List.not_mem_nil, or_false] at hb
    rcases hb with rfl | rfl <;> rw [UInt8.toNat_ofNat'] <;> omega
  · split at hb
    · simp only [List.mem_cons, List.not_mem_nil, or_false] at hb
      rcases hb with rfl | rfl | rfl <;> rw [UInt8.toNat_ofNat'] <;> omega
    · simp only [List.mem_cons, List.not_mem_nil, or_false] at hb
      rcases hb with rfl | rfl | rfl | rfl <;> rw [UInt8.toNat_ofNat'] <;> omega

theorem eq_of_ascii_mem (ha : a.toNat ≤ 127) (h : a.toNat.toUInt8 ∈ String.utf8EncodeChar c) :
    c = a := by
  have hbyte : a.toNat.toUInt8.toNat = a.toNat := Nat.mod_eq_of_lt (by omega)
  by_cases hc : c.toNat ≤ 127
  · rw [encoded_ascii hc, List.mem_singleton, ← UInt8.toNat_inj, hbyte] at h
    have hbyte' : c.toNat.toUInt8.toNat = c.toNat := Nat.mod_eq_of_lt (by omega)
    rw [hbyte'] at h
    exact (Char.toNat_inj.mp h).symm
  · have hhigh := high_of_mem_encoded (Nat.not_le.mp hc) h
    omega

/-- Where a text has the byte of an ASCII character, it has the character. -/
theorem exists_append_of_encoded (ha : a.toNat ≤ 127)
    (h : (cs.flatMap String.utf8EncodeChar)[k]? = some a.toNat.toUInt8) :
    ∃ front back, cs = front ++ a :: back ∧ byteSize front = k := by
  induction cs generalizing k with
  | nil => cases h
  | cons c cs ih =>
    rw [List.flatMap_cons, List.getElem?_append, String.length_utf8EncodeChar] at h
    split at h
    · rename_i hk
      obtain rfl := eq_of_ascii_mem ha (List.mem_of_getElem? h)
      have hsize : c.utf8Size = 1 := by
        rw [← String.length_utf8EncodeChar, encoded_ascii ha]
        rfl
      exact ⟨[], cs, rfl, by rw [byteSize]; omega⟩
    · rename_i hk
      obtain ⟨front, back, rfl, hsize⟩ := ih h
      exact ⟨c :: front, back, rfl, by rw [byteSize]; omega⟩

theorem exists_append_of_bytes (ha : a.toNat ≤ 127) (h : (bytes s)[k]? = some a.toNat.toUInt8) :
    ∃ front back, s.toList = front ++ a :: back ∧ byteSize front = k :=
  exists_append_of_encoded ha h

theorem getElem?_bytes (ha : a.toNat ≤ 127) (h : s.toList = front ++ a :: back) :
    (bytes s)[byteSize front]? = some a.toNat.toUInt8 := by
  rw [bytes, h, List.flatMap_append, List.flatMap_cons, encoded_ascii ha,
    List.getElem?_append_right (Nat.le_of_eq (length_encoded front)), length_encoded, Nat.sub_self]
  rfl

theorem byteSize_mono (h : cs <+: ds) : byteSize cs ≤ byteSize ds := by
  obtain ⟨more, rfl⟩ := h
  rw [byteSize_append]
  exact Nat.le_add_right _ _

theorem eq_nil_of_byteSize (h : byteSize cs = 0) : cs = [] := by
  cases cs with
  | nil => rfl
  | cons c cs =>
    have hpos := c.utf8Size_pos
    rw [byteSize] at h
    omega

/-- Of two beginnings of one text, that of fewer bytes begins the other. -/
theorem prefix_of_byteSize_le {text : List Char} (hcs : cs <+: text) (hds : ds <+: text)
    (h : byteSize cs ≤ byteSize ds) : cs <+: ds := by
  rcases List.prefix_or_prefix_of_prefix hcs hds with hle | ⟨more, rfl⟩
  · exact hle
  · rw [byteSize_append] at h
    have hmore : more = [] := eq_nil_of_byteSize (by omega)
    exact ⟨[], by simp [hmore]⟩

/-- Where the bytes of a text begin with those of one that ends in an ASCII character, the text
begins with that one. -/
theorem prefix_of_bytes {init : List Char} (ha : a.toNat ≤ 127) (ht : t.toList = init ++ [a])
    (h : bytes t <+: bytes s) : t.toList <+: s.toList := by
  obtain ⟨more, hmore⟩ := h
  have hlength : (bytes t).length = byteSize (init ++ [a]) := by rw [length_bytes, ht]
  have hlast : (bytes s)[byteSize init]? = some a.toNat.toUInt8 := by
    have hpos := a.utf8Size_pos
    rw [← hmore, List.getElem?_append_left (by rw [hlength, byteSize_append, byteSize]; omega)]
    exact getElem?_bytes ha ht
  obtain ⟨front, back, hs, hfront⟩ := exists_append_of_bytes ha hlast
  have hs' : s.toList = (front ++ [a]) ++ back := by simp [hs]
  have hbytes : bytes s = bytes (.ofList (front ++ [a])) ++ bytes (.ofList back) := by
    rw [← bytes_ofList_append, ← hs', String.ofList_toList]
  have hsize : (bytes t).length = (bytes (.ofList (front ++ [a]))).length := by
    rw [hlength, length_bytes, String.toList_ofList, byteSize_append, byteSize_append, hfront]
  have hsame := (List.append_inj (hmore.trans hbytes) hsize).1
  rw [bytes_inj] at hsame
  rw [hsame, String.toList_ofList, hs']
  exact List.prefix_append _ _

end BindingTables.Text
