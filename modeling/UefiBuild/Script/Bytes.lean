import UefiBuild.Text.Utf8

namespace UefiBuild.Script

/-- Scripts and the tools they call work on bytes. In their texts each character stands for one byte,
and this gives such a text. -/
def toBytes (s : String) : String :=
  String.ofList ((Text.toUtf8 s).map fun byte => Char.ofNat byte.toNat)

def byteList (bytes : String) : List UInt8 := bytes.toList.map fun c => c.toNat.toUInt8

def ofByteList (bytes : List UInt8) : String :=
  String.ofList (bytes.map fun byte => Char.ofNat byte.toNat)

def ofBytes (bytes : String) : String := Text.ofUtf8 (byteList bytes)

end UefiBuild.Script
