import ShuffleWatch.Proofs.Text.Files

/-!
# Deleting lines

Lines are deleted from a file by their numbers, each with the line feed that ends it
(`deleteLines`). The other lines are what they were (`lines_deleteLines`), so a file that
can be read can still be read, and the same is read on them (`decodeLines_deleteLines`).
Any file in UTF-8 can be read (`exists_decodeLines`).
-/

namespace ShuffleWatch.Text

/-- The items of a list but those whose numbers are `gone`, where the first item has this
    number. -/
def deleteFrom {α : Type} (gone : Nat → Bool) : Nat → List α → List α
  | _, [] => []
  | number, item :: rest =>
    if gone number then deleteFrom gone (number + 1) rest
    else item :: deleteFrom gone (number + 1) rest

/-- The file without the lines whose numbers are `gone`. -/
def deleteLines (gone : Nat → Bool) (bytes : List UInt8) : List UInt8 :=
  (deleteFrom gone 1 (segments bytes)).flatten

variable {α β : Type} {gone : Nat → Bool} {line bytes : List UInt8} {ls : List String}

/-! ## Lists -/

theorem deleteFrom_map (f : α → β) (number : Nat) (items : List α) :
    deleteFrom gone number (items.map f) = (deleteFrom gone number items).map f := by
  induction items generalizing number with
  | nil => rfl
  | cons item items ih =>
    rw [List.map_cons, deleteFrom, deleteFrom, apply_ite (List.map f), ih, List.map_cons]

theorem deleteFrom_false (number : Nat) (items : List α) :
    deleteFrom (fun _ => false) number items = items := by
  induction items generalizing number with
  | nil => rfl
  | cons item items ih => exact congrArg (item :: ·) (ih _)

theorem deleteFrom_sublist (number : Nat) (items : List α) :
    (deleteFrom gone number items).Sublist items := by
  induction items generalizing number with
  | nil => exact .slnil
  | cons item items ih =>
    rw [deleteFrom]
    split
    · exact (ih _).cons item
    · exact (ih _).cons_cons item

/-! ## Segments -/

/-- A file is made of its segments. -/
theorem flatten_segments (bytes : List UInt8) : (segments bytes).flatten = bytes := by
  induction bytes with
  | nil => rfl
  | cons b bs ih =>
    rw [segments]
    split
    · exact congrArg (b :: ·) ih
    · split
      · rename_i hnone
        rw [hnone] at ih
        rw [← ih]
        rfl
      · rename_i segment rest hsome
        rw [hsome, List.flatten_cons] at ih
        rw [List.flatten_cons, List.cons_append, ih]

/-- Where no lines are deleted, the file is left as it is. -/
theorem deleteLines_false (bytes : List UInt8) : deleteLines (fun _ => false) bytes = bytes := by
  rw [deleteLines, deleteFrom_false, flatten_segments]

/-- A text is empty, or it is a single line without an end, or begins with a line that
    ends. -/
theorem line_induction (sep : α) {P : List α → Prop} (nil : P [])
    (last : ∀ line, line ≠ [] → sep ∉ line → P line)
    (step : ∀ line rest, sep ∉ line → P rest → P (line ++ sep :: rest)) (text : List α) :
    P text := by
  induction hn : text.length using Nat.strongRecOn generalizing text with
  | ind n ih =>
    -- The text is cut at the first separator, and the rest of it is shorter.
    by_cases hmem : sep ∈ text
    · obtain ⟨line, rest, rfl, hline⟩ := List.eq_append_cons_of_mem hmem
      refine step line rest hline (ih rest.length ?_ rest rfl)
      rw [← hn, List.length_append, List.length_cons]
      omega
    · rcases eq_or_ne text [] with rfl | hne
      · exact nil
      · exact last text hne hmem

/-! ## Lines -/

theorem splitLines_flatten_deleteFrom (number : Nat) (bytes : List UInt8) :
    splitLines (deleteFrom gone number (segments bytes)).flatten =
      deleteFrom gone number (splitLines bytes) := by
  induction bytes using line_induction lineFeed generalizing number with
  | nil => rfl
  | last line hne h =>
    rw [segments_of_not_mem hne h, splitLines_of_not_mem hne h, deleteFrom]
    split
    · rfl
    · rw [deleteFrom, List.flatten_singleton, splitLines_of_not_mem hne h]
  -- A line goes with the line feed that ends it, or both stay. Only the last line may have none.
  | step line rest h ih =>
    rw [segments_append h, splitLines_append h, deleteFrom, deleteFrom]
    split
    · exact ih _
    · rw [List.flatten_cons, List.append_assoc, List.singleton_append, splitLines_append h, ih]

/-- The lines that are not deleted are left. -/
theorem lines_deleteLines (bytes : List UInt8) :
    lines (deleteLines gone bytes) = deleteFrom gone 1 (lines bytes) := by
  rw [lines, lines, deleteLines, splitLines_flatten_deleteFrom, deleteFrom_map]

/-- Lines can be read when each of them is in UTF-8, whatever their numbers are. -/
theorem decodeLines_eq_ok_iff {number : Nat} {bs : List (List UInt8)} :
    decodeLines number bs = .ok ls ↔ bs.map decode? = ls.map some := by
  induction bs generalizing number ls with
  | nil => cases ls <;> simp [decodeLines]
  | cons line bs ih =>
    rw [decodeLines, List.map_cons]
    rcases decode? line with _ | l
    · cases ls <;> simp
    · cases ls with
      | nil => cases decodeLines (number + 1) bs <;> simp [Except.map]
      | cons l' ls =>
        rw [List.map_cons, List.cons_eq_cons, Option.some_inj, ← @ih _ (number + 1)]
        cases decodeLines (number + 1) bs <;> simp [Except.map]

/-- A file that can be read can be read without some of its lines. -/
theorem decodeLines_deleteLines (h : decodeLines 1 (lines bytes) = .ok ls) :
    decodeLines 1 (lines (deleteLines gone bytes)) = .ok (deleteFrom gone 1 ls) := by
  rw [decodeLines_eq_ok_iff] at h ⊢
  rw [lines_deleteLines, ← deleteFrom_map, h, deleteFrom_map]

/-! ## Files in UTF-8 -/

theorem exists_encode {text : String} (h : decode? bytes = some text) :
    ∃ cs, bytes = encode cs := by
  rw [decode?, String.fromUTF8?] at h
  split at h
  · rename_i hvalid
    obtain ⟨cs, hcs⟩ := hvalid
    have hbytes := congrArg (fun b : ByteArray => b.data.toList) hcs
    exact ⟨cs, by simpa [encode, List.utf8Encode] using hbytes⟩
  · cases h

theorem exists_map_decode?_lines_encode (cs : List Char) :
    ∃ ls : List String, (lines (encode cs)).map decode? = ls.map some := by
  induction cs using line_induction '\n' with
  | nil => exact ⟨[], rfl⟩
  | last line hne h =>
    have hne' : encode line ≠ [] := by
      obtain ⟨c, line, rfl⟩ := List.exists_cons_of_ne_nil hne
      exact List.append_ne_nil_of_left_ne_nil String.utf8EncodeChar_ne_nil _
    refine ⟨[String.ofList (chomp line)], ?_⟩
    rw [lines, splitLines_of_not_mem hne' (lineFeed_not_mem_encode h), List.map_singleton,
      List.map_singleton, dropReturn_encode, decode?_encode, List.map_singleton]
  -- A line feed is encoded as a single byte, which occurs in no other character.
  | step line rest h ih =>
    obtain ⟨ls, hls⟩ := ih
    have hfeed : encode (line ++ '\n' :: rest) = encode line ++ lineFeed :: encode rest := by
      rw [encode_append]
      rfl
    refine ⟨String.ofList (chomp line) :: ls, ?_⟩
    rw [lines, hfeed, splitLines_append (lineFeed_not_mem_encode h), List.map_cons,
      List.map_cons, dropReturn_encode, decode?_encode, List.map_cons, ← hls, lines]

/-- A file in UTF-8 can be read line by line. -/
theorem exists_decodeLines {text : String} (h : decode? bytes = some text) :
    ∃ ls, decodeLines 1 (lines bytes) = .ok ls := by
  obtain ⟨cs, rfl⟩ := exists_encode h
  obtain ⟨ls, hls⟩ := exists_map_decode?_lines_encode cs
  exact ⟨ls, decodeLines_eq_ok_iff.2 hls⟩

end ShuffleWatch.Text
