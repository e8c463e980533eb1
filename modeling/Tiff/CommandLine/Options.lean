-- The options of the command line. Arguments are taken from left to right. The
-- value of an option is either attached with an equals sign or the next argument,
-- and it is looked at when the argument behind it comes up. Two dashes alone end
-- the options. What the arguments leave out can come from the environment.

namespace Tiff.CommandLine

/-! ## Names -/

inductive Flag where
  | full | exif | image | tiff85 | verbose
  deriving DecidableEq, Repr

/-- Options with a number. -/
inductive Quantity where
  | maxDirectories | maxEntries | maxValueSize | unicodeSize | complexSize
  deriving DecidableEq, Repr

inductive Switch where
  | flag (flag : Flag)
  | quantity (quantity : Quantity)
  | help
  | version
  deriving DecidableEq, Repr

/-- The switches by their long names. -/
def longNames : List (String × Switch) := [
  ("full", .flag .full),
  ("exif", .flag .exif),
  ("image", .flag .image),
  ("max-directories", .quantity .maxDirectories),
  ("max-entries", .quantity .maxEntries),
  ("max-value-size", .quantity .maxValueSize),
  ("unicode-size", .quantity .unicodeSize),
  ("complex-size", .quantity .complexSize),
  ("tiff85", .flag .tiff85),
  ("verbose", .flag .verbose),
  ("help", .help),
  ("version", .version)]

/-- The switches by their short names. None of them has a value. -/
def shortNames : List (Char × Switch) := [
  ('f', .flag .full),
  ('v', .flag .verbose),
  ('h', .help),
  ('V', .version)]

/-- The numbers that the environment can set, by the names of the variables. -/
def quantityVariables : List (Quantity × String) := [
  (.maxDirectories, "TIFFWALK_MAX_DIRECTORIES"),
  (.maxEntries, "TIFFWALK_MAX_ENTRIES"),
  (.maxValueSize, "TIFFWALK_MAX_VALUE_SIZE"),
  (.unicodeSize, "TIFFWALK_UNICODE_SIZE"),
  (.complexSize, "TIFFWALK_COMPLEX_SIZE")]

def flagVariables : List (Flag × String) := [(.tiff85, "TIFFWALK_TIFF85")]

/-! ## Scanning -/

/-- Why the arguments lead to no run. -/
inductive Stop where
  | help
  | version
  /-- No such option, or one path too many. -/
  | unknownArgument
  | missingValue
  /-- A flag is neither `true` nor `false` in the environment. -/
  | badFlag
  /-- A value is no 64-bit number. -/
  | badNumber
  | repeated
  /-- A flag comes with a value. -/
  | unwantedValue
  deriving DecidableEq, Repr

/-- What the arguments so far gave. -/
structure Scan where
  path? : Option String := none
  flags : List (Flag × Bool) := []
  quantities : List (Quantity × Nat) := []
  /-- An option that still waits for its value, or whose value was not looked at yet. -/
  pending : Option (Quantity × Option String) := none
  /-- Whether the options are over. -/
  trailing : Bool := false
  deriving DecidableEq, Repr

/-- A decimal number below `2 ^ 64`, perhaps with a plus sign in front. -/
def number? (text : String) : Option Nat :=
  let digits := match text.toList with
    | '+' :: rest => rest
    | cs => cs
  if digits.isEmpty || digits.any fun c => c < '0' || '9' < c then none
  else
    let n := digits.foldl (fun n c => n * 10 + (c.toNat - '0'.toNat)) 0
    if n < UInt64.size then some n else none

namespace Scan

/-- Takes a number for an option that has none yet. -/
def giveQuantity (scan : Scan) (quantity : Quantity) (text : String) : Except Stop Scan :=
  if (scan.quantities.lookup quantity).isSome then .error .repeated
  else
    match number? text with
    | none => .error .badNumber
    | some n => .ok { scan with quantities := (quantity, n) :: scan.quantities }

/-- Takes a flag that was not given yet. -/
def giveFlag (scan : Scan) (flag : Flag) (on : Bool) : Except Stop Scan :=
  if (scan.flags.lookup flag).isSome then .error .repeated
  else .ok { scan with flags := (flag, on) :: scan.flags }

/-- Looks at the value of the option before. -/
def settle (scan : Scan) : Except Stop Scan :=
  match scan.pending with
  | none => .ok scan
  | some (_, none) => .error .missingValue
  | some (quantity, some text) => { scan with pending := none }.giveQuantity quantity text

/-- Takes a switch without a value. -/
def giveSwitch (scan : Scan) (switch : Switch) : Except Stop Scan := do
  let scan ← scan.settle
  match switch with
  | .flag flag => scan.giveFlag flag true
  | .quantity quantity => return { scan with pending := some (quantity, none) }
  | .help => throw .help
  | .version => throw .version

/-- Takes a switch with an attached value. -/
def giveAttached (scan : Scan) (switch : Switch) (text : String) : Except Stop Scan :=
  match switch with
  | .quantity quantity => scan.settle >>= fun scan => scan.giveQuantity quantity text
  | _ => .error .unwantedValue

/-- Takes what stands behind two dashes. -/
def giveLong (scan : Scan) (text : List Char) : Except Stop Scan :=
  match longNames.lookup (String.ofList (text.takeWhile (· != '='))) with
  | none => .error .unknownArgument
  | some switch =>
    match text.dropWhile (· != '=') with
    | [] => scan.giveSwitch switch
    | _ :: value => scan.giveAttached switch (String.ofList value)

/-- Takes what stands behind one dash: short names, one character each. -/
def giveShort (scan : Scan) : List Char → Except Stop Scan
  | [] => .ok scan
  | c :: cs =>
    match shortNames.lookup c with
    | none => .error .unknownArgument
    | some switch => scan.giveSwitch switch >>= fun scan => scan.giveShort cs

/-- Takes a path, unless there is one. -/
def givePath (scan : Scan) (path : String) : Except Stop Scan :=
  if scan.path?.isSome then .error .unknownArgument
  else scan.settle.map fun scan => { scan with path? := some path }

/-- Takes an argument that is no option: the value of the option before, or the path. -/
def givePlain (scan : Scan) (text : String) : Except Stop Scan :=
  match scan.pending with
  | some (quantity, none) => .ok { scan with pending := some (quantity, some text) }
  | _ => scan.givePath text

def give (scan : Scan) (argument : String) : Except Stop Scan :=
  if scan.trailing then scan.givePath argument
  else
    match argument.toList with
    | ['-', '-'] => .ok { scan with trailing := true }
    | '-' :: '-' :: text => scan.giveLong text
    | ['-'] => scan.givePlain argument
    | '-' :: text => scan.giveShort text
    | _ => scan.givePlain argument

/-- Takes a number from the environment, unless the arguments gave it. -/
def giveVariable (env : String → Option String) (scan : Scan) (entry : Quantity × String) :
    Except Stop Scan :=
  if (scan.quantities.lookup entry.1).isSome then .ok scan
  else
    match env entry.2 with
    | none => .ok scan
    | some text => scan.giveQuantity entry.1 text

/-- Takes a flag from the environment, unless the arguments gave it. -/
def giveFlagVariable (env : String → Option String) (scan : Scan) (entry : Flag × String) :
    Except Stop Scan :=
  if (scan.flags.lookup entry.1).isSome then .ok scan
  else
    match env entry.2 with
    | none => .ok scan
    | some "true" => scan.giveFlag entry.1 true
    | some "false" => scan.giveFlag entry.1 false
    | some _ => .error .badFlag

def run (arguments : List String) (env : String → Option String) : Except Stop Scan := do
  let scan ← arguments.foldlM give {}
  let scan ← scan.settle
  let scan ← quantityVariables.foldlM (giveVariable env) scan
  flagVariables.foldlM (giveFlagVariable env) scan

def isOn (scan : Scan) (flag : Flag) : Bool := (scan.flags.lookup flag).getD false

end Scan

end Tiff.CommandLine
