import Mender.Text.Utf8

/-! Byte text: text whose characters stand for single bytes. -/

namespace Mender.Machine.Text

def charOfByte (b : UInt8) : Char := Char.ofNat b.toNat

def byteOfChar (c : Char) : UInt8 := UInt8.ofNat c.toNat

def charsOfBytes (bytes : ByteArray) : List Char := bytes.toList.map charOfByte

def ofBytes (bytes : ByteArray) : String := .ofList (charsOfBytes bytes)

def bytesOfChars (cs : List Char) : ByteArray := ⟨(cs.map byteOfChar).toArray⟩

def toBytes (s : String) : ByteArray := bytesOfChars s.toList

def encode (s : String) : String := ofBytes s.toUTF8

def decode (s : String) : String := Text.lossy (toBytes s)

end Mender.Machine.Text
