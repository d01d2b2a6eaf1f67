/-! Versions with a major and a minor number. -/

namespace Cryptoki

structure Version where
  major : UInt8
  minor : UInt8
deriving DecidableEq, Repr

namespace Version

def toBytes (v : Version) : List UInt8 := [v.major, v.minor]

/-- Versions are ordered by their major number, then by their minor number. -/
def compare (a b : Version) : Ordering :=
  (Ord.compare a.major b.major).then (Ord.compare a.minor b.minor)

def text (v : Version) : String := s!"{v.major}.{v.minor}"

end Version

end Cryptoki
