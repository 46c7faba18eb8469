namespace Telga.Domain

/-- The UTF-16 code units of one character. -/
def codeUnits (c : Char) : List Nat :=
  if c.toNat < 0x10000 then [c.toNat]
  else
    let rest := c.toNat - 0x10000
    [0xD800 + rest / 0x400, 0xDC00 + rest % 0x400]

def utf16 (text : String) : List Nat :=
  text.toList.flatMap codeUnits

/-- The characters the runtime's `trim` takes off. -/
def isWhitespace (c : Char) : Bool :=
  let n := c.toNat
  (9 ≤ n && n ≤ 13) || n == 0x20 || n == 0xA0 || n == 0x1680 || (0x2000 ≤ n && n ≤ 0x200A) ||
    n == 0x2028 || n == 0x2029 || n == 0x202F || n == 0x205F || n == 0x3000 || n == 0xFEFF

def trim (text : String) : String :=
  String.ofList ((text.toList.dropWhile isWhitespace).reverse.dropWhile isWhitespace).reverse

/-- Keep the leading and trailing two characters, so that a shop can recognise a sale. -/
def maskRecipient (recipient : String) : String :=
  let trimmed := (trim recipient).toList
  if trimmed.length ≤ 4 then String.ofList (List.replicate trimmed.length '*')
  else
    String.ofList (trimmed.take 2 ++ List.replicate (trimmed.length - 4) '*' ++
      trimmed.drop (trimmed.length - 2))

/-- How many code units a string has, which is what the runtime calls its length. -/
def textLength (text : String) : Nat :=
  (utf16 text).length

end Telga.Domain
