import Std.Data.ExtTreeMap.Basic
import Std.Data.ExtTreeMap.Lemmas

/-!
Program metadata: numbers and texts, each under a key. The two kinds are kept apart, so one key
may have a number and a text at the same time.
-/
namespace ServiceBus

abbrev TextMap (α : Type) := Std.ExtTreeMap String α

/-- Image keys hold a number by which the tuner finds the image. -/
structure Metadata where
  ints : TextMap Int32
  texts : TextMap String
deriving DecidableEq

namespace Metadata

abbrev Fields := TextMap Int32 × TextMap String

def toFields (m : Metadata) : Fields := (m.ints, m.texts)

def ofFields : Fields → Metadata
  | (ints, texts) => ⟨ints, texts⟩

@[simp] theorem ofFields_toFields (m : Metadata) : ofFields m.toFields = m := rfl
@[simp] theorem toFields_ofFields (x : Fields) : (ofFields x).toFields = x := rfl

def empty : Metadata := ⟨∅, ∅⟩

def putInt (m : Metadata) (key : String) (value : Int32) : Metadata :=
  { m with ints := m.ints.insert key value }

def putText (m : Metadata) (key value : String) : Metadata :=
  { m with texts := m.texts.insert key value }

def int? (m : Metadata) (key : String) : Option Int32 := m.ints[key]?

def text? (m : Metadata) (key : String) : Option String := m.texts[key]?

def contains (m : Metadata) (key : String) : Bool :=
  m.ints.contains key || m.texts.contains key

def size (m : Metadata) : Nat := m.ints.size + m.texts.size

def isEmpty (m : Metadata) : Bool := m.size == 0

@[simp] theorem int?_putInt (m : Metadata) (k l : String) (n : Int32) :
    (m.putInt k n).int? l = if k = l then some n else m.int? l := by
  simp [int?, putInt, Std.ExtTreeMap.getElem?_insert]

@[simp] theorem text?_putText (m : Metadata) (k l t : String) :
    (m.putText k t).text? l = if k = l then some t else m.text? l := by
  simp [text?, putText, Std.ExtTreeMap.getElem?_insert]

@[simp] theorem text?_putInt (m : Metadata) (k l : String) (n : Int32) :
    (m.putInt k n).text? l = m.text? l := rfl

@[simp] theorem int?_putText (m : Metadata) (k l t : String) :
    (m.putText k t).int? l = m.int? l := rfl

end Metadata

inductive MetadataKey
  | rdsPi
  | rdsPs
  | rdsPty
  | rdsRt
  | title
  | artist
  | album
  | genre
  | icon
  | art
  | programName
deriving DecidableEq

namespace MetadataKey

def all : List MetadataKey :=
  [rdsPi, rdsPs, rdsPty, rdsRt, title, artist, album, genre, icon, art, programName]

def label : MetadataKey → String
  | rdsPi => "RDS_PI"
  | rdsPs => "RDS_PS"
  | rdsPty => "RDS_PTY"
  | rdsRt => "RDS_RT"
  | title => "TITLE"
  | artist => "ARTIST"
  | album => "ALBUM"
  | genre => "GENRE"
  | icon => "ICON"
  | art => "ART"
  | programName => "PROGRAM_NAME"

def key (k : MetadataKey) : String :=
  "android.hardware.radio.metadata." ++ k.label

end MetadataKey

end ServiceBus
