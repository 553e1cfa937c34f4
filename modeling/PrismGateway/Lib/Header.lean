import Mathlib.Logic.Function.Basic

namespace PrismGateway.Lib

def headerFieldChar (c : Char) : Bool := c.isAlphanum || "!#$%&'*+-.^_`|~".toList.contains c

def canonicalChars : Bool → List Char → List Char
  | _, [] => []
  | upper, c :: cs => (if upper then c.toUpper else c.toLower) :: canonicalChars (c = '-') cs

/-- `textproto.CanonicalMIMEHeaderKey`: a name with a character that no header has is left as it is. -/
def canonicalMIMEHeaderKey (s : String) : String :=
  if s.toList.all headerFieldChar then String.ofList (canonicalChars true s.toList) else s

example : canonicalMIMEHeaderKey "x-route-GROUP" = "X-Route-Group" := by decide

abbrev Header := String → String

namespace Header

def get (h : Header) (key : String) : String := h (canonicalMIMEHeaderKey key)

def only (key value : String) : Header :=
  fun name => if name = canonicalMIMEHeaderKey key then value else ""

def Same (key key' : String) : Prop := canonicalMIMEHeaderKey key = canonicalMIMEHeaderKey key'

instance (key key' : String) : Decidable (Same key key') :=
  inferInstanceAs (Decidable (canonicalMIMEHeaderKey key = canonicalMIMEHeaderKey key'))

def AgreeBut (key : String) (h h' : Header) : Prop :=
  ∀ name, name ≠ canonicalMIMEHeaderKey key → h name = h' name

variable {key : String} {h h' : Header}

theorem get_only (key value : String) : get (only key value) key = value := if_pos rfl

theorem get_only_of_not_same {key' : String} (hne : ¬Same key' key) (value : String) :
    get (only key value) key' = "" := if_neg hne

theorem agreeBut_only (key value value' : String) : AgreeBut key (only key value) (only key value') :=
  fun _ hne => (if_neg hne).trans (if_neg hne).symm

theorem AgreeBut.eq (hbut : AgreeBut key h h') (hkey : get h key = get h' key) : h = h' := by
  funext name
  by_cases hname : name = canonicalMIMEHeaderKey key
  · rw [hname]
    exact hkey
  · exact hbut name hname

theorem get_eq_of_same {key' : String} (hsame : Same key key') (hget : get h key' = get h' key') :
    get h key = get h' key := by
  unfold get
  rw [show canonicalMIMEHeaderKey key = canonicalMIMEHeaderKey key' from hsame]
  exact hget

end Header

end PrismGateway.Lib
