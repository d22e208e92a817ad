import MessageCatalog.Text.Blank

/-!
# Target platforms

An entry may be restricted to some of the four target platforms.  The empty
restriction means that the entry is for every platform.
-/

namespace MessageCatalog

inductive Platform
  | apple
  | android
  | windows
  | java
  deriving DecidableEq, Repr

namespace Platform

def all : List Platform := [apple, android, windows, java]

/-- The name of a platform in listings and in the structured form. -/
def name : Platform → Text
  | apple => "Apple".toList
  | android => "Android".toList
  | windows => "Windows".toList
  | java => "Java".toList

def ofName? (text : Text) : Option Platform := all.find? fun platform => platform.name = text

theorem ofName?_name (platform : Platform) : ofName? platform.name = some platform := by
  cases platform <;> decide

/-- The platform an author means: capitals and surrounding blanks do not
matter. -/
def ofText? (text : Text) : Option Platform :=
  all.find? fun platform => Text.asciiLower platform.name = Text.asciiLower (Text.trim text)

def unknownMessage (text : Text) : Text :=
  "Unknown platform value: '".toList ++ text ++ "'".toList

end Platform

structure PlatformSet where
  apple : Bool
  android : Bool
  windows : Bool
  java : Bool
  deriving DecidableEq, Repr

namespace PlatformSet

def empty : PlatformSet := ⟨false, false, false, false⟩

def contains (set : PlatformSet) : Platform → Bool
  | .apple => set.apple
  | .android => set.android
  | .windows => set.windows
  | .java => set.java

def insert (set : PlatformSet) : Platform → PlatformSet
  | .apple => { set with apple := true }
  | .android => { set with android := true }
  | .windows => { set with windows := true }
  | .java => { set with java := true }

def toList (set : PlatformSet) : List Platform := Platform.all.filter set.contains

def ofList (platforms : List Platform) : PlatformSet := platforms.foldl insert empty

def isEmpty (set : PlatformSet) : Bool := set = empty

@[simp] theorem contains_empty (platform : Platform) : empty.contains platform = false := by
  cases platform <;> rfl

@[simp] theorem contains_insert (set : PlatformSet) (new platform : Platform) :
    (set.insert new).contains platform = (decide (platform = new) || set.contains platform) := by
  cases new <;> cases platform <;> simp [insert, contains]

@[simp] theorem isEmpty_toList (set : PlatformSet) : set.toList.isEmpty = set.isEmpty := by
  obtain ⟨apple, android, windows, java⟩ := set
  cases apple <;> cases android <;> cases windows <;> cases java <;> rfl

@[simp] theorem ofList_toList (set : PlatformSet) : ofList set.toList = set := by
  obtain ⟨apple, android, windows, java⟩ := set
  cases apple <;> cases android <;> cases windows <;> cases java <;> rfl

end PlatformSet

end MessageCatalog
