import ActivityMatrix.Text.Quoted

/-!
# Escapes in addresses

A character that may not stand in a part of an address is written by its bytes, each as two
hexadecimal digits after a percent sign. Which characters those are depends on the part. A percent
sign stays as it is, so that what is escaped is not escaped once more.
-/

namespace ActivityMatrix.Address

/-- The bytes of a character, each after a percent sign. -/
def escaped (c : Char) : List Char :=
  c.toString.toUTF8.toList.flatMap fun byte =>
    '%' :: (Text.hexDigits 2 byte.toNat).map Char.toUpper

/-- Characters, with those escaped that are not printed characters of ASCII and those that are
given. -/
def escape (unsafeOnes : List Char) (cs : List Char) : List Char :=
  cs.flatMap fun c =>
    if 0x20 < c.toNat && c.toNat < 0x7f && !unsafeOnes.contains c then [c] else escaped c

/-- What may not stand behind a number sign. -/
def unsafeInFragment : List Char := ['"', '<', '>', '\x60']

def unsafeInQuery : List Char := ['"', '#', '<', '>']

def unsafeInPath : List Char := unsafeInQuery ++ ['?', '\x60', '\x7b', '\x7d']

def unsafeInUser : List Char := unsafeInPath ++ ['/', ';', '=', '@', '[', '\\', ']', '^', '|']

def unsafeInHost : List Char := ['#', '/', ':', '<', '>', '?', '@', '[', ']', '^']

end ActivityMatrix.Address
