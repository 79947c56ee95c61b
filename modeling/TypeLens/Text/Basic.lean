/-! Texts. A text is the list of its characters, since every rule of this library speaks of
single characters, and every reader takes a text from its front. -/
namespace TypeLens

abbrev Text := List Char

instance : Coe String Text := ⟨String.toList⟩

instance : LawfulBEq Text := inferInstance

namespace Text

def total (measure : Char → Nat) (text : Text) : Nat := text.foldr (fun c sum => measure c + sum) 0

def byteSize (text : Text) : Nat := text.total Char.utf8Size

@[simp] theorem byteSizeNil : byteSize [] = 0 := rfl

@[simp] theorem byteSizeCons (c : Char) (text : Text) : byteSize (c :: text) = c.utf8Size + byteSize text := rfl

@[simp] theorem byteSizeAppend (s t : Text) : byteSize (s ++ t) = byteSize s + byteSize t := by
  induction s with
  | nil => simp
  | cons c s ih => rw [List.cons_append, byteSizeCons, byteSizeCons, ih, Nat.add_assoc]

def strip (drop : Char → Bool) (text : Text) : Text :=
  ((text.dropWhile drop).reverse.dropWhile drop).reverse

def joined (separator : Text) (parts : List Text) : Text := separator.intercalate parts

def piecesAt (mark : Char) : Text → List Text
  | [] => [[]]
  | c :: rest =>
    if c = mark then [] :: piecesAt mark rest
    else match piecesAt mark rest with
      | [] => [[c]]
      | piece :: pieces => (c :: piece) :: pieces

def occursIn (part : Text) : Text → Bool
  | [] => part.isEmpty
  | c :: text => part.isPrefixOf (c :: text) || part.occursIn text

theorem occursInIff {part text : Text} : part.occursIn text ↔ part <:+: text := by
  induction text with
  | nil => simp [occursIn]
  | cons c text ih => simp [occursIn, ih, List.infix_cons_iff]

def ofNat (n : Nat) : Text := Nat.toDigits 10 n

def ofInt (n : Int) : Text := if n < 0 then '-' :: ofNat n.natAbs else ofNat n.natAbs

def padLeft (length : Nat) (text : Text) : Text := List.replicate (length - text.length) ' ' ++ text

end Text
end TypeLens
