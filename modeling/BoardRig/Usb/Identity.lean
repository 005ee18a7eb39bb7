/-
USB identities: a vendor and a product.

An identity is a pair of texts, each of four digits in base sixteen when it
was made from numbers. Attributes read from the system are taken without the
blanks around them and in lower case, so that they compare equal to the
numbers they show.
-/
import BoardRig.Error
import BoardRig.Text.Blank
import BoardRig.Text.Radix

namespace BoardRig

/-- A vendor and a product, in base sixteen. -/
structure UsbIdentity where
  vendor : String
  product : String
deriving DecidableEq, Repr

namespace UsbIdentity

def digits (id : UInt16) : String :=
  Radix.hexFixed 4 id.toNat

def ofIds (vendor product : UInt16) : UsbIdentity :=
  ⟨digits vendor, digits product⟩

/-- An attribute without the blanks around it, in lower case. -/
def plainDigits (text : String) : String :=
  String.ofList ((Text.trim text.toList).map Text.lowerAscii)

def ofAttributes (vendor product : String) : UsbIdentity :=
  ⟨plainDigits vendor, plainDigits product⟩

def text (i : UsbIdentity) : String := i.vendor ++ ":" ++ i.product

/-- Why a text is no identity. -/
inductive Fault where
  | noColon (text : String)
  | vendor (text : String) (cause : Radix.Fault)
  | product (text : String) (cause : Radix.Fault)
deriving DecidableEq, Repr

def Fault.message : Fault → String
  | .noColon text => s!"expected VID:PID, got '{text}'"
  | .vendor text cause => s!"bad vendor id '{text}': {cause.message}"
  | .product text cause => s!"bad product id '{text}': {cause.message}"

/-- The number of 16 bits that a text denotes in base sixteen, with blanks
around it. -/
def id (cs : List Char) : Except Radix.Fault UInt16 :=
  (Radix.read 16 (Nat.pow 2 16) (Text.trim cs)).map UInt16.ofNat

/-- The identity that a text of the form `vendor:product` denotes. -/
def ofText (text : String) : Except Fault UsbIdentity :=
  match Text.cutAt? ':' text.toList with
  | none => .error (.noColon text)
  | some (vendor, product) =>
    match id vendor with
    | .error e => .error (.vendor (String.ofList vendor) e)
    | .ok v =>
      match id product with
      | .error e => .error (.product (String.ofList product) e)
      | .ok p => .ok (ofIds v p)

/-- The identity that a text denotes, with a fault as an error. -/
def parse (text : String) : Except Error UsbIdentity :=
  match ofText text with
  | .ok i => .ok i
  | .error f => .error (.parse f.message)

end UsbIdentity

end BoardRig
