import Mathlib.Data.List.Basic
import Mathlib.Data.List.TakeWhile
import ShuffleWatch.Proofs.Json.Extent
import ShuffleWatch.Replay

/-!
# Files of lines

A text file is made of its lines, each in UTF-8 with a line feed behind it (`file`), and
read back line by line (`decodeLines_lines_file`). Its bytes are cut behind the line feeds
into `segments`, and a line is a segment without its line feed (`splitLines_eq_map`). The
lines come back as they were, but for a carriage return at the end of a line, which belongs
to no line; it is a blank, so it makes no difference to a replay (`readFile_file`). Nor do
the blanks around an event (`content?_bind_written?`).
-/

namespace ShuffleWatch

namespace Text

/-- The text in UTF-8. -/
def encode (cs : List Char) : List UInt8 := cs.flatMap String.utf8EncodeChar

/-- The file that consists of these lines. -/
def file (ls : List String) : List UInt8 := ls.flatMap fun l => encode l.toList ++ [lineFeed]

/-- The bytes up to each line feed, the line feeds included. -/
def segments : List UInt8 → List (List UInt8)
  | [] => []
  | b :: bs =>
    if b = lineFeed then [b] :: segments bs
    else
      match segments bs with
      | [] => [[b]]
      | segment :: rest => (b :: segment) :: rest

/-- The text without a carriage return at its end. -/
def chomp (cs : List Char) : List Char := if cs.getLast? = some '\r' then cs.dropLast else cs

variable {cs bs : List Char} {c : Char} {b : UInt8} {line : List UInt8} {ls : List String}

/-! ## UTF-8 -/

theorem encode_append : encode (cs ++ bs) = encode cs ++ encode bs := List.flatMap_append

theorem encode_singleton : encode [c] = String.utf8EncodeChar c := List.flatMap_singleton _ _

theorem decode?_encode (cs : List Char) : decode? (encode cs) = some (String.ofList cs) := by
  have hbytes : (⟨(encode cs).toArray⟩ : ByteArray) = (String.ofList cs).toByteArray := by
    apply ByteArray.ext
    simp [encode, List.utf8Encode]
  rw [decode?, hbytes, String.fromUTF8?, dif_pos (String.ofList cs).isValidUTF8]
  rfl

/-- The bytes below 128 encode the characters of the same numbers, and occur in no other
    encoding. -/
theorem eq_of_mem_utf8EncodeChar (hb : b ∈ String.utf8EncodeChar c) (hlt : b.toNat < 128) :
    String.utf8EncodeChar c = [b] ∧ c.toNat = b.toNat := by
  simp only [String.utf8EncodeChar] at hb ⊢
  split at hb
  · rename_i hascii
    cases List.mem_singleton.1 hb
    rw [if_pos hascii, UInt8.toNat_ofNat']
    exact ⟨rfl, (Nat.mod_eq_of_lt (Nat.lt_of_le_of_lt hascii (by decide))).symm⟩
  -- All bytes of a longer encoding are at least 128.
  · exfalso
    split at hb
    · simp only [List.mem_cons, List.not_mem_nil, or_false] at hb
      rcases hb with rfl | rfl <;> (rw [UInt8.toNat_ofNat'] at hlt; omega)
    · split at hb
      · simp only [List.mem_cons, List.not_mem_nil, or_false] at hb
        rcases hb with rfl | rfl | rfl <;> (rw [UInt8.toNat_ofNat'] at hlt; omega)
      · simp only [List.mem_cons, List.not_mem_nil, or_false] at hb
        rcases hb with rfl | rfl | rfl | rfl <;> (rw [UInt8.toNat_ofNat'] at hlt; omega)

theorem char_eq_of_toNat_eq {d : Char} (h : c.toNat = d.toNat) : c = d :=
  Char.ext (UInt32.toNat_inj.1 h)

theorem lineFeed_not_mem_encode (h : '\n' ∉ cs) : lineFeed ∉ encode cs := by
  intro hmem
  obtain ⟨c, hc, hb⟩ := List.mem_flatMap.1 hmem
  have hc' : c = '\n' := char_eq_of_toNat_eq (eq_of_mem_utf8EncodeChar hb (by decide)).2
  exact h (hc' ▸ hc)

theorem dropReturn_encode (cs : List Char) : dropReturn (encode cs) = encode (chomp cs) := by
  rcases List.eq_nil_or_concat cs with rfl | ⟨init, c, rfl⟩
  · rfl
  have hne : String.utf8EncodeChar c ≠ [] := String.utf8EncodeChar_ne_nil
  have hlast : (encode (init.concat c)).getLast? = (String.utf8EncodeChar c).getLast? := by
    rw [List.concat_eq_append, encode_append, encode_singleton, List.getLast?_append_of_ne_nil _ hne]
  rw [dropReturn, chomp, hlast, List.concat_eq_append, List.getLast?_concat, List.dropLast_concat]
  -- The last byte of an encoded character is a carriage return for that character only.
  by_cases hc : c = '\r'
  · subst hc
    have hreturn : (String.utf8EncodeChar '\r').getLast? = some carriageReturn := rfl
    rw [if_pos hreturn, if_pos rfl, encode_append]
    exact List.dropLast_concat
  · have hb : (String.utf8EncodeChar c).getLast? ≠ some carriageReturn := fun hb => by
      have hmem := List.mem_of_getLast? hb
      exact hc (char_eq_of_toNat_eq (eq_of_mem_utf8EncodeChar hmem (by decide)).2)
    rw [if_neg hb, if_neg (by rwa [Option.some_inj])]

/-! ## Segments -/

theorem segments_of_not_mem (hne : line ≠ []) (h : lineFeed ∉ line) :
    segments line = [line] := by
  induction line with
  | nil => exact absurd rfl hne
  | cons b line ih =>
    obtain ⟨hb, hline⟩ := List.ne_and_not_mem_of_not_mem_cons h
    rw [segments, if_neg (Ne.symm hb)]
    rcases eq_or_ne line [] with rfl | hne'
    · rfl
    · rw [ih hne' hline]

theorem segments_append (h : lineFeed ∉ line) (bytes : List UInt8) :
    segments (line ++ lineFeed :: bytes) = (line ++ [lineFeed]) :: segments bytes := by
  induction line with
  | nil => exact if_pos rfl
  | cons b line ih =>
    obtain ⟨hb, hline⟩ := List.ne_and_not_mem_of_not_mem_cons h
    rw [List.cons_append, segments, if_neg (Ne.symm hb), ih hline]
    rfl

/-! ## Lines -/

/-- The line of a segment is what comes before its line feed. -/
theorem splitLines_eq_map (bytes : List UInt8) :
    splitLines bytes = (segments bytes).map (List.takeWhile (· ≠ lineFeed)) := by
  induction bytes with
  | nil => rfl
  | cons b bytes ih =>
    rw [splitLines, segments, ih]
    by_cases hb : b = lineFeed
    · simp [hb]
    · cases segments bytes <;> simp [hb]

theorem splitLines_of_not_mem (hne : line ≠ []) (h : lineFeed ∉ line) :
    splitLines line = [line] := by
  have hline : line.takeWhile (· ≠ lineFeed) = line :=
    List.takeWhile_eq_self_iff.2 fun b hb => by simpa using ne_of_mem_of_not_mem hb h
  rw [splitLines_eq_map, segments_of_not_mem hne h, List.map_singleton, hline]

theorem splitLines_append (h : lineFeed ∉ line) (bytes : List UInt8) :
    splitLines (line ++ lineFeed :: bytes) = line :: splitLines bytes := by
  have hline : (line ++ [lineFeed]).takeWhile (· ≠ lineFeed) = line := by
    rw [List.takeWhile_append_of_pos fun b hb => by simpa using ne_of_mem_of_not_mem hb h,
      List.takeWhile_cons_of_neg (by simp), List.append_nil]
  rw [splitLines_eq_map, splitLines_eq_map, segments_append h, List.map_cons, hline]

/-- The lines of a file are those that it is made of, when none of them has a line feed
    in it. -/
theorem lines_file (h : ∀ l ∈ ls, '\n' ∉ l.toList) :
    lines (file ls) = ls.map fun l => encode (chomp l.toList) := by
  rw [lines]
  induction ls with
  | nil => rfl
  | cons l ls ih =>
    obtain ⟨hl, hls⟩ := List.forall_mem_cons.1 h
    rw [file, List.flatMap_cons, List.append_assoc, List.singleton_append,
      splitLines_append (lineFeed_not_mem_encode hl), List.map_cons, dropReturn_encode]
    exact congrArg _ (ih hls)

theorem decodeLines_map_encode (number : Nat) (texts : List (List Char)) :
    decodeLines number (texts.map encode) = .ok (texts.map String.ofList) := by
  induction texts generalizing number with
  | nil => rfl
  | cons cs texts ih =>
    rw [List.map_cons, decodeLines, decode?_encode]
    dsimp only
    rw [ih]
    rfl

theorem decodeLines_lines_file (h : ∀ l ∈ ls, '\n' ∉ l.toList) :
    decodeLines 1 (lines (file ls)) = .ok (ls.map fun l => String.ofList (chomp l.toList)) := by
  have hmap : (ls.map fun l => encode (chomp l.toList)) =
      (ls.map fun l => chomp l.toList).map encode := List.map_map.symm
  rw [lines_file h, hmap, decodeLines_map_encode, List.map_map]
  rfl

/-! ## Carriage returns -/

theorem trim_chomp (cs : List Char) : trim (chomp cs) = trim cs := by
  rw [chomp]
  split
  · rename_i hlast
    obtain ⟨init, rfl⟩ := List.getLast?_eq_some_iff.1 hlast
    rw [List.dropLast_concat, trim_append]
    exact List.forall_mem_singleton.2 rfl
  · rfl

end Text

/-! ## Replaying a file -/

namespace Replay

/-- What a replay reads in a file of lines is what is written on these lines. -/
theorem readFile_file {ls : List String} (h : ∀ l ∈ ls, '\n' ∉ l.toList) :
    readFile (Text.file ls) = .ok ((ls.filterMap content?).map written?) := by
  have hcontent : (content? ∘ fun l => String.ofList (Text.chomp l.toList)) = content? := by
    funext l
    rw [Function.comp_apply, content?, content?, String.toList_ofList, Text.trim_chomp]
  rw [readFile, Text.decodeLines_lines_file h]
  dsimp only
  rw [List.filterMap_map, hcontent]

/-- A line that writes an event is neither blank nor a comment, and writes the same when it
    is trimmed. -/
theorem content?_bind_written? {l : String} {e : WrittenEvent}
    (h : written? l.toList = some e) : (content? l).bind written? = some e := by
  obtain ⟨j, hread, hj⟩ := Option.bind_eq_some_iff.1 h
  obtain ⟨htrim, c, rest, hcs, hhash⟩ := Json.read?_trim hread
  have hcontent : content? l = some (Text.trim l.toList) := by
    rw [content?, hcs]
    split
    · contradiction
    · rename_i heq
      exact absurd (List.cons.inj heq).1 hhash
    · rfl
  rw [hcontent, Option.bind_some, written?, htrim]
  exact hj

end Replay

end ShuffleWatch
