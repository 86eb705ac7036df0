import LoopbackCalibration.Text.Blank

/-! # Device arguments

Devices are selected by a comma-separated list of `key=value` items. `parse` reads
the list and `display` writes it back; of several items with one key the last
counts.
-/

namespace LoopbackCalibration

/-- Device arguments in the order they were given. -/
structure DeviceArguments where
  /-- Keys with their values; a bare key has an empty value. -/
  pairs : List (String × String)
  deriving Repr, DecidableEq, Inhabited

namespace DeviceArguments

/-- Read one trimmed item: the key before the first equals sign and the value after
it, both trimmed, or a bare key. -/
def parseItem (item : List Char) : String × String :=
  match Text.splitOnce? '=' item with
  | some (key, value) => (String.ofList (Text.trim key), String.ofList (Text.trim value))
  | none => (String.ofList item, "")

/-- Read an argument list. Items that are blank are skipped. -/
def parse (input : String) : DeviceArguments :=
  let items := (Text.split ',' input.toList).map Text.trim
  ⟨(items.filter fun item => !item.isEmpty).map parseItem⟩

/-- The value of the last item with a key. -/
def get? (arguments : DeviceArguments) (key : String) : Option String :=
  (arguments.pairs.reverse.find? fun pair => pair.1 == key).map Prod.snd

/-- The driver that is asked for. -/
def driver? (arguments : DeviceArguments) : Option String :=
  arguments.get? "driver"

/-- The simulated transceiver is asked for. -/
def isSimulated (arguments : DeviceArguments) : Bool :=
  arguments.driver? == some "sim"

/-- No argument is given. -/
def isEmpty (arguments : DeviceArguments) : Bool :=
  arguments.pairs.isEmpty

/-- One item: the key alone when the value is empty. -/
def displayItem (pair : String × String) : String :=
  if pair.2 = "" then pair.1 else pair.1 ++ "=" ++ pair.2

/-- The arguments as they are written, with commas between them. -/
def display (arguments : DeviceArguments) : String :=
  ",".intercalate (arguments.pairs.map displayItem)

end DeviceArguments

end LoopbackCalibration
