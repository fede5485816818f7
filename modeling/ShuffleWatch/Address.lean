import ShuffleWatch.Error
import ShuffleWatch.Text.Blank
import ShuffleWatch.Text.Hex

/-!
# Addresses

The identities of players and contracts: twenty bytes each. Two addresses are
equal when their bytes are, so the case of the digits that spelled them does
not matter.

* `ofDigits?_digits`: the digits an address is written with spell that address.
* `read?_eq`: nothing but digits is read as the digits of an address.
* `parse_render`: the written form of an address is read back.
-/

namespace ShuffleWatch

open Text

/-- Twenty bytes naming a player or a contract. -/
structure Address where
  bytes : List UInt8
  length_bytes : bytes.length = 20
  deriving DecidableEq

namespace Address

/-- The address with these bytes, if they are twenty. -/
def ofBytes? (bs : List UInt8) : Option Address :=
  if h : bs.length = 20 then some ⟨bs, h⟩ else none

/-- The address all of whose bytes are `b`. -/
def fill (b : UInt8) : Address := ⟨List.replicate 20 b, List.length_replicate⟩

/-- The address that stands for nobody. -/
def zero : Address := fill 0

/-- The address that forty hexadecimal digits spell. -/
def ofDigits? (cs : List Char) : Option Address := (Hex.bytes? cs).bind ofBytes?

/-- The forty lowercase digits that spell the address. -/
def digits (a : Address) : List Char := Hex.ofBytes a.bytes

/-- The written form of an address: `0x` and its lowercase digits. -/
def render (a : Address) : String := String.ofList ('0' :: 'x' :: a.digits)

/-- The text without the mark `0x` or `0X` it may begin with. -/
def withoutMark : List Char → List Char
  | '0' :: 'x' :: cs => cs
  | '0' :: 'X' :: cs => cs
  | cs => cs

/-- The text without the mark `0x` it may begin with. -/
def withoutSmallMark : List Char → List Char
  | '0' :: 'x' :: cs => cs
  | cs => cs

/-- The address that a lenient reader finds, who passes over a mark `0x`, and over
    spaces, tabs and line ends anywhere between the digits. -/
def lenient? (cs : List Char) : Option Address :=
  ofDigits? ((withoutSmallMark cs).filter (!·.isWhitespace))

/-- The number of bytes of the text in UTF-8. -/
def byteLength (cs : List Char) : Nat := cs.foldr (fun c n => c.utf8Size + n) 0

/-- The address a person wrote: forty digits of either case, perhaps marked by
    `0x` or `0X`, perhaps between blanks. The lenient reader gets to see forty bytes,
    so there is room for nothing but digits (`read?_eq`). -/
def read? (cs : List Char) : Option Address :=
  let unmarked := withoutMark (trim cs)
  if byteLength unmarked = 40 then lenient? unmarked else none

/-- The address a person wrote, or the text that is none. -/
def parse (text : String) : Except Error Address :=
  match read? text.toList with
  | some a => .ok a
  | none => .error (.badAddress text)

theorem ofBytes?_bytes (a : Address) : ofBytes? a.bytes = some a := dif_pos a.length_bytes

theorem ofDigits?_digits (a : Address) : ofDigits? a.digits = some a := by
  rw [ofDigits?, digits, Hex.bytes?_ofBytes, Option.bind_some, ofBytes?_bytes]

theorem length_digits (a : Address) : a.digits.length = 40 := by
  rw [digits, Hex.length_ofBytes, a.length_bytes]

theorem not_isBlank_of_mem_digits {a : Address} {c : Char} (h : c ∈ a.digits) :
    isBlank c = false := by
  obtain ⟨n, hn, rfl⟩ := Hex.exists_digit_of_mem_ofBytes h
  have : ∀ m : Fin 16, isBlank (Hex.digit m) = false := by decide
  exact this ⟨n, hn⟩

/-- Only forty digits spell an address. -/
theorem length_of_ofDigits? {cs : List Char} {a : Address} (h : ofDigits? cs = some a) :
    cs.length = 40 := by
  obtain ⟨bs, hbs, ha⟩ := Option.bind_eq_some_iff.1 h
  rw [ofBytes?] at ha
  split at ha
  · rename_i hl
    rw [Hex.length_of_bytes? hbs, hl]
  · cases ha

theorem isDigit_of_ofDigits? {cs : List Char} {a : Address} (h : ofDigits? cs = some a) :
    ∀ c ∈ cs, Hex.isDigit c = true := by
  obtain ⟨bs, hbs, -⟩ := Option.bind_eq_some_iff.1 h
  exact Hex.isDigit_of_bytes? hbs

/-! ## The lenient reader -/

theorem byteLength_cons (c : Char) (cs : List Char) :
    byteLength (c :: cs) = c.utf8Size + byteLength cs := rfl

theorem length_le_byteLength (cs : List Char) : cs.length ≤ byteLength cs := by
  induction cs with
  | nil => exact Nat.le_refl 0
  | cons c cs ih =>
    have := c.utf8Size_pos
    rw [List.length_cons, byteLength_cons]
    omega

theorem byteLength_of_isDigit {cs : List Char} (h : ∀ c ∈ cs, Hex.isDigit c = true) :
    byteLength cs = cs.length := by
  induction cs with
  | nil => rfl
  | cons c cs ih =>
    obtain ⟨hc, hcs⟩ := List.forall_mem_cons.1 h
    rw [byteLength_cons, List.length_cons, ih hcs, Hex.utf8Size_of_isDigit hc, Nat.add_comm]

/-- The lenient reader takes a mark and blanks away, and leaves the rest as it is. -/
theorem lenient?_eq (cs : List Char) :
    ∃ ds, ds.Sublist cs ∧ lenient? cs = ofDigits? ds ∧
      ((∀ c ∈ cs, Hex.isDigit c = true) → ds = cs) := by
  have hfilter : ∀ ds : List Char, (∀ c ∈ ds, Hex.isDigit c = true) →
      ds.filter (!·.isWhitespace) = ds := fun ds hds =>
    List.filter_eq_self.2 fun c hc => by simp [Hex.not_isWhitespace_of_isDigit (hds c hc)]
  rw [lenient?, withoutSmallMark.eq_def]
  split
  · rename_i rest
    refine ⟨_, List.filter_sublist.trans ?_, rfl, fun h => ?_⟩
    · exact ((List.Sublist.refl rest).cons 'x').cons '0'
    · exact absurd (h 'x' (by simp)) (by decide)
  · exact ⟨_, List.filter_sublist, rfl, hfilter cs⟩

/-- There is no room for a mark or a blank in forty bytes that spell an address. -/
theorem lenient?_of_byteLength {cs : List Char} (h : byteLength cs = 40) :
    lenient? cs = ofDigits? cs := by
  obtain ⟨ds, hsublist, hlenient, hdigits⟩ := lenient?_eq cs
  rw [hlenient]
  refine Option.ext fun a => ⟨fun ha => ?_, fun ha => ?_⟩
  · -- Forty digits are left of at most forty characters.
    have hlength := length_le_byteLength cs
    rw [h, ← length_of_ofDigits? ha] at hlength
    rwa [← hsublist.eq_of_length_le hlength]
  · rwa [hdigits (isDigit_of_ofDigits? ha)]

/-- The address a person wrote is spelled by what is left of the text without blanks and
    mark. -/
theorem read?_eq (cs : List Char) : read? cs = ofDigits? (withoutMark (trim cs)) := by
  rw [read?]
  split
  · rename_i hbytes
    exact lenient?_of_byteLength hbytes
  · rename_i hbytes
    refine (Option.eq_none_iff_forall_ne_some.2 fun a ha => hbytes ?_).symm
    rw [byteLength_of_isDigit (isDigit_of_ofDigits? ha), length_of_ofDigits? ha]

/-! ## The written form -/

theorem read?_render (a : Address) : read? a.render.toList = some a := by
  have h : trim ('0' :: 'x' :: a.digits) = '0' :: 'x' :: a.digits := by
    refine trim_of_forall fun c hc => ?_
    rcases List.mem_cons.1 hc with rfl | hc
    · rfl
    rcases List.mem_cons.1 hc with rfl | hc
    · rfl
    exact not_isBlank_of_mem_digits hc
  rw [read?_eq, render, String.toList_ofList, h, withoutMark, ofDigits?_digits]

theorem parse_render (a : Address) : parse a.render = .ok a := by
  rw [parse, read?_render]

end Address

end ShuffleWatch
