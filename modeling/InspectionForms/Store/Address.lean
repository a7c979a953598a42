import InspectionForms.Text.Blank
import InspectionForms.Text.Percent
import InspectionForms.Text.Split
import InspectionForms.Text.Utf8

namespace InspectionForms

/-- Why the name of a store leads to no place. -/
inductive AddressError
  | invalidAuthority (authority : String)
  | noSuchAccess (value : String)
  | noSuchCache (value : String)
  | accessNotAllowed (value : String)
  | noSuchLayer (name : String)
  deriving DecidableEq, Repr

def AddressError.message : AddressError → String
  | invalidAuthority authority => "invalid uri authority: " ++ authority
  | noSuchAccess value => "no such access mode: " ++ value
  | noSuchCache value => "no such cache mode: " ++ value
  | accessNotAllowed value => "access mode not allowed: " ++ value
  | noSuchLayer name => "no such vfs: " ++ name

/-- A file and the options that are given with it, in order. The name of the file and the values can be any
bytes. -/
structure FileUri where
  file : List UInt8
  options : List (String × List UInt8)
  deriving DecidableEq, Repr

namespace FileUri

/-- Drops the authority, which can only be this machine. -/
def dropAuthority : List Char → Except AddressError (List Char)
  | '/' :: '/' :: rest =>
    let authority := rest.takeWhile (· != '/')
    if authority.isEmpty ∨ authority = "localhost".toList then .ok (rest.dropWhile (· != '/'))
    else .error (.invalidAuthority (String.ofList authority))
  | cs => .ok cs

/-- A name and the value behind the first equals sign. An option without a name is none. -/
def option? (cs : List Char) : Option (String × List UInt8) :=
  let name := percentBytes (cs.takeWhile (· != '='))
  if name.isEmpty then none else some (textOfBytes name, percentBytes ((cs.dropWhile (· != '=')).drop 1))

/-- Reads what follows the scheme: the file, behind a question mark the options with ampersands between them,
and behind a number sign nothing that counts. -/
def ofChars (cs : List Char) : Except AddressError FileUri := do
  let cs := (← dropAuthority cs).takeWhile (· != '#')
  let query := (cs.dropWhile (· != '?')).drop 1
  return ⟨percentBytes (cs.takeWhile (· != '?')), (pieces '&' query).filterMap option?⟩

end FileUri

/-- What may be done to the file of a store. -/
inductive Access
  | read
  | write
  | create
  | memory
  deriving DecidableEq, Repr

namespace Access

def ofText? : String → Option Access
  | "ro" => some read
  | "rw" => some write
  | "rwc" => some create
  | "memory" => some memory
  | _ => none

def rank : Access → Nat
  | read => 0
  | write => 1
  | create => 2
  | memory => 3

/-- An option may only take something away, but a store can always be kept in memory. -/
def allows (current chosen : Access) : Bool := chosen == memory || decide (chosen.rank ≤ current.rank)

end Access

/-- What lies below a store: memory, or a file that users share or keep to themselves, protect by a file of its
own or do not protect. -/
inductive FileLayer
  | shared
  | exclusive
  | lockFile
  | unprotected
  | memory
  deriving DecidableEq, Repr

def FileLayer.ofText? : String → Option FileLayer
  | "unix" => some shared
  | "unix-excl" => some exclusive
  | "unix-dotfile" => some lockFile
  | "unix-none" => some unprotected
  | "memdb" => some memory
  | _ => none

/-- Where a store is kept, and how it is opened. A new file takes its permissions from a model. The size of sectors
counts for journals. -/
structure StoreAddress where
  file : List UInt8
  access : Access
  layer : FileLayer
  isUnlocked : Bool
  isImmutable : Bool
  hasFixedIndex : Bool
  sectorSize : Nat
  modelFile : Option (List UInt8)
  deriving DecidableEq, Repr

/-- The number that a text starts with: hexadecimal behind `0x`, else decimal. It is zero if it needs more than
31 bits. -/
def leadingNumber (cs : List Char) : Nat :=
  let number := match cs with
    | '0' :: 'x' :: rest | '0' :: 'X' :: rest => leadingHexadecimal 0 rest
    | _ => Nat.ofDigitChars 10 (cs.takeWhile Char.isDigit) 0
  if number < 0x80000000 then number else 0

/-- A switch is set by a word or by a number, of which the last byte counts. What follows a number does not
matter, and other words leave the switch as it is. -/
def readSwitch (usual : Bool) (value : String) : Bool :=
  if value.toList.head?.any Char.isDigit then leadingNumber value.toList % 256 != 0
  else if usual then !(["off", "no", "false"].contains (lowerAscii value))
  else ["on", "yes", "true"].contains (lowerAscii value)

namespace StoreAddress

def ofFile (file : List UInt8) : StoreAddress := ⟨file, .create, .shared, false, false, false, 512, none⟩

def setOption (address : StoreAddress) (option : String × List UInt8) : Except AddressError StoreAddress :=
  let value := textOfBytes option.2
  match option.1 with
  | "mode" =>
    match Access.ofText? value with
    | none => .error (.noSuchAccess value)
    | some access =>
      if address.access.allows access then .ok { address with access } else .error (.accessNotAllowed value)
  | "cache" => if value = "shared" ∨ value = "private" then .ok address else .error (.noSuchCache value)
  | _ => .ok address

/-- Of options that are given more than once, the last one names the layer, the first one counts for a switch
and for the model, and access is taken step by step. -/
def ofUri (uri : FileUri) : Except AddressError StoreAddress := do
  let address ← uri.options.foldlM setOption (ofFile uri.file)
  let layerName := ((uri.options.reverse.lookup "vfs").map textOfBytes).getD "unix"
  let switch (name : String) (usual : Bool) : Bool :=
    ((uri.options.lookup name).map fun value => readSwitch usual (textOfBytes value)).getD usual
  match FileLayer.ofText? layerName with
  | none => .error (.noSuchLayer layerName)
  | some layer =>
    return { address with
      layer
      isUnlocked := switch "nolock" false
      isImmutable := switch "immutable" false
      hasFixedIndex := switch "readonly_shm" false
      sectorSize := if switch "psow" true then 512 else 4096
      modelFile := uri.options.lookup "modeof" }

/-- Reads the name of a store, which is a URI if it starts with the scheme of files. -/
def ofText (text : String) : Except AddressError StoreAddress :=
  match text.toList with
  | 'f' :: 'i' :: 'l' :: 'e' :: ':' :: rest => do ofUri (← FileUri.ofChars rest)
  | _ => .ok (ofFile (utf8 text))

/-- A store without a file lasts as long as it is open. -/
def isTransient (address : StoreAddress) : Bool :=
  address.access == .memory || address.file.isEmpty || address.file == utf8 ":memory:"

def isReadOnly (address : StoreAddress) : Bool :=
  address.access == .read || (address.isImmutable && !address.isTransient)

/-- Changes go through a log, which needs users that lock the file. -/
def usesLog (address : StoreAddress) : Bool :=
  (address.layer == .shared || address.layer == .exclusive) && !address.isUnlocked

/-- The index of the log is a file that others can see. A user that keeps the file to itself has it in memory,
but cannot do so without the right to write. -/
def sharesIndex (address : StoreAddress) : Bool := address.layer != .exclusive || address.access == .read

end StoreAddress

end InspectionForms
