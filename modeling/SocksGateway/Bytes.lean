/-!
Octet strings: two-octet words in network order and UTF-8 text.
-/

set_option autoImplicit false

namespace SocksGateway

/-- Octets in the order they travel. -/
abbrev Bytes := List UInt8

namespace Bytes

/-- The two octets of a word, most significant first. -/
def ofWord (word : UInt16) : Bytes :=
  [UInt8.ofNat (word.toNat / 256), UInt8.ofNat word.toNat]

/-- The word whose octets are `high` and `low`. -/
def word (high low : UInt8) : UInt16 :=
  UInt16.ofNat (high.toNat * 256 + low.toNat)

@[simp] theorem length_ofWord (word : UInt16) : (ofWord word).length = 2 := rfl

theorem word_ofNat (value : UInt16) :
    word (UInt8.ofNat (value.toNat / 256)) (UInt8.ofNat value.toNat) = value := by
  apply UInt16.toNat_inj.mp
  have bound := value.toNat_lt
  simp only [word, UInt8.toNat_ofNat', UInt16.toNat_ofNat']
  omega

theorem ofWord_word (high low : UInt8) : ofWord (word high low) = [high, low] := by
  have highBound := high.toNat_lt
  have lowBound := low.toNat_lt
  have whole : (word high low).toNat = high.toNat * 256 + low.toNat := by
    simp only [word, UInt16.toNat_ofNat']
    omega
  simp only [ofWord, whole, List.cons.injEq, and_true]
  constructor
  · apply UInt8.toNat_inj.mp
    simp only [UInt8.toNat_ofNat']
    omega
  · apply UInt8.toNat_inj.mp
    simp only [UInt8.toNat_ofNat']
    omega

/-- The UTF-8 octets of a text. -/
def ofText (text : String) : Bytes := text.toUTF8.data.toList

/-- The text whose UTF-8 octets these are, if they are well formed. -/
def text? (bytes : Bytes) : Option String := String.fromUTF8? bytes.toByteArray

theorem text?_ofText (text : String) : text? (ofText text) = some text := by
  have same : (ofText text).toByteArray = text.toByteArray := by
    apply ByteArray.ext
    simp [ofText, String.toUTF8]
  have valid : (ofText text).toByteArray.IsValidUTF8 := same ▸ text.isValidUTF8
  simp only [text?, String.fromUTF8?, valid, ↓reduceDIte, String.fromUTF8, Option.some.injEq]
  exact String.toByteArray_inj.mp same

theorem ofText_of_text? {bytes : Bytes} {text : String} (decoded : text? bytes = some text) :
    ofText text = bytes := by
  unfold text? String.fromUTF8? at decoded
  split at decoded
  · simp only [Option.some.injEq] at decoded
    subst decoded
    simp [ofText, String.toUTF8, String.fromUTF8]
  · cases decoded

/-- Octets are the UTF-8 form of a text exactly when they read as that text. -/
theorem text?_eq_some_iff {bytes : Bytes} {text : String} :
    text? bytes = some text ↔ ofText text = bytes :=
  ⟨ofText_of_text?, fun same => same ▸ text?_ofText text⟩

end Bytes

end SocksGateway
