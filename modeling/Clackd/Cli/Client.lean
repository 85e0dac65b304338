import Clackd.Cli.Values
import Clackd.Foundation.Dialogue
import Clackd.Hal.Legacy.Gmk67
import Clackd.Ipc.Linear

/-!
# The commands of clackctl

A command is a client program: it calls methods of the daemon one after the other, prints,
and succeeds or fails.  It keeps no state of the devices, so all it does depends on its
arguments and on the replies.

The texts are printed line by line, each with its line break.  How zbus prints an error
that `clackctl` does not know is a parameter.
-/

namespace Clackd.Cli

open Clackd.Foundation Clackd.Ipc
open Clackd.Boot (trim)
open Clackd.Hal.Legacy (hs_to_rgb rgb_to_hs)

/-! ## Replies and errors -/

/-- `zbus::Error`, as far as `clackctl` tells them apart. -/
inductive BusError where
  | methodError (name : String) (detail : Option String)
  | interfaceNotFound
  | other (message : String)
  deriving DecidableEq, Repr

/-- An error of the interface, as it comes over the bus. -/
def BusError.ofFdo : FdoError → BusError
  | .unknownObject detail => .methodError "org.freedesktop.DBus.Error.UnknownObject" (some detail)
  | .accessDenied detail => .methodError "org.freedesktop.DBus.Error.AccessDenied" (some detail)
  | .notSupported detail => .methodError "org.freedesktop.DBus.Error.NotSupported" (some detail)
  | .failed detail => .methodError "org.freedesktop.DBus.Error.Failed" (some detail)

/-- `CliError`, and the panic that a parser may end in. -/
inductive Failure where
  | bus (error : BusError)
  | text (message : String)
  | panicked
  deriving DecidableEq, Repr

/-- What a method call comes back with. -/
abbrev Returned : Type := Except BusError Answer

/-- A program that calls methods and prints. -/
abbrev Talk (ρ : Type) : Type := Dialogue Method Returned String ρ

/-- An `async fn` that returns a `Result<α, CliError>`. -/
def Client (α : Type) : Type := Talk (Except Failure α)

instance : Monad Client where
  pure a := .done (.ok a)
  bind := Dialogue.andThen

namespace Client

variable {α : Type}

/-- `Err(e)`. -/
def fail (e : Failure) : Client α := Dialogue.done (.error e)

/-- `proxy.method(..).await?`. -/
def await (call : Talk (Except BusError α)) : Client α :=
  Dialogue.bind call fun r => .done (r.mapError .bus)

/-- `proxy.method(..).await`, whatever it returns. -/
def attempt (call : Talk (Except BusError α)) : Client (Except BusError α) :=
  Dialogue.bind call fun r => .done (.ok r)

/-- `parse(..)?`. -/
def parsed : Except String α → Client α
  | .ok a => Dialogue.done (.ok a)
  | .error message => fail (.text message)

def println (line : String) : Client Unit := Dialogue.tell (line ++ "\n") (.done (.ok ()))

def print_lines : List String → Client Unit
  | [] => pure ()
  | line :: lines => do
      println line
      print_lines lines

end Client

open Client

/-! ## The proxy -/

/-- zbus refuses a reply that is not of the type of the method. -/
def SIGNATURE_MISMATCH : BusError := .other "signature mismatch"

/-- A method call of the proxy. -/
def proxy {α : Type} (method : Method) (read : Answer → Option α) : Talk (Except BusError α) :=
  .ask method fun returned => .done (returned.bind fun answer =>
    (read answer).elim (.error SIGNATURE_MISMATCH) .ok)

def as_devices : Answer → Option (List String)
  | .devices ids => some ids
  | _ => none

def as_info : Answer → Option (String × UInt8 × UInt8 × UInt8)
  | .info model rows cols layer_count => some (model, rows, cols, layer_count)
  | _ => none

def as_identity : Answer → Option (UInt16 × UInt16 × String)
  | .identity vendor_id product_id name => some (vendor_id, product_id, name)
  | _ => none

def as_keycode : Answer → Option UInt16
  | .keycode code => some code
  | _ => none

def as_done : Answer → Option Unit
  | .done => some ()
  | _ => none

def as_bytes : Answer → Option (List UInt8)
  | .bytes data => some data
  | _ => none

def list_devices : Talk (Except BusError (List String)) := proxy .list_devices as_devices

def get_device_info (id : String) : Talk (Except BusError (String × UInt8 × UInt8 × UInt8)) :=
  proxy (.get_device_info id) as_info

def get_device_identity (id : String) : Talk (Except BusError (UInt16 × UInt16 × String)) :=
  proxy (.get_device_identity id) as_identity

def get_keycode (id : String) (layer row col : UInt8) : Talk (Except BusError UInt16) :=
  proxy (.get_keycode id layer row col) as_keycode

def set_keycode (id : String) (layer row col : UInt8) (code : UInt16) :
    Talk (Except BusError Unit) :=
  proxy (.set_keycode id layer row col code) as_done

def commit (id : String) : Talk (Except BusError Unit) := proxy (.commit id) as_done

def read_macro_bytes (id : String) (offset : UInt16) (length : UInt8) :
    Talk (Except BusError (List UInt8)) :=
  proxy (Method.get_macro id offset length) as_bytes

def write_macro_bytes (id : String) (offset : UInt16) (data : List UInt8) :
    Talk (Except BusError Unit) :=
  proxy (Method.set_macro id offset data) as_done

def get_lighting (id : String) (channel value_id : UInt8) :
    Talk (Except BusError (List UInt8)) :=
  proxy (.get_lighting id channel value_id) as_bytes

def set_lighting (id : String) (channel value_id : UInt8) (data : List UInt8) :
    Talk (Except BusError Unit) :=
  proxy (.set_lighting id channel value_id data) as_done

/-! ## Device resolution -/

def to_ascii_lowercase (s : String) : List Char := s.toList.map Char.toLower

/-- `hay.contains(needle)`. -/
def contains (hay needle : List Char) : Bool := needle <:+: hay

/-- Whether the device or its product name has the text in it, in any case. -/
def matches_spec (spec id name : String) : Bool :=
  contains (to_ascii_lowercase id) (to_ascii_lowercase spec) ||
    contains (to_ascii_lowercase name) (to_ascii_lowercase spec)

/-- The loop over the devices, from the ids that have matched on. -/
def find_matches (spec : String) (found : List String) : List String → Client (List String)
  | [] => pure found
  | id :: rest => do
      let identity ← attempt (get_device_identity id)
      let name := (identity.map fun (_, _, name) => name).toOption.getD ""
      find_matches spec (if matches_spec spec id name then found ++ [id] else found) rest

def ambiguous (spec : String) (found : List String) : String :=
  "'" ++ spec ++ "' matches several keyboards: " ++ ", ".intercalate found ++
    " — be more specific"

def no_match (spec : String) (devices : List String) : String :=
  let available := if devices.isEmpty then "none connected" else ", ".intercalate devices
  "no keyboard matching '" ++ spec ++ "' (available: " ++ available ++ ")"

/-- `spec.parse::<usize>()`, and the device at that index. -/
def device_at (devices : List String) (spec : String) : Option String :=
  (from_str_radix_10 (2 ^ 64) spec.toList).bind fun idx => devices[idx]?

/-- Resolves a user-supplied device spec to a concrete device id. -/
def resolve_device (spec : String) : Client String := do
  let devices ← await list_devices
  if spec ∈ devices then return spec
  match device_at devices spec with
  | some id => return id
  | none =>
      match ← find_matches spec [] devices with
      | [only] => return only
      | [] => fail (.text (no_match spec devices))
      | many => fail (.text (ambiguous spec many))

/-! ## Device enumeration -/

def hex_word (v : UInt16) : String := String.ofList (padded 16 4 v.toNat)

/-- One-line human summary of a device; degrades to the bare id when the detail queries
fail. -/
def describe_device (id : String) : Client String := do
  let identity ← attempt (get_device_identity id)
  let info ← attempt (get_device_info id)
  match identity, info with
  | .ok (vid, pid, name), .ok (_, rows, cols, layers) =>
      let name := if name.isEmpty then "unnamed" else name
      return id ++ " — " ++ name ++ " [" ++ hex_word vid ++ ":" ++ hex_word pid ++ "], " ++
        toString rows ++ "×" ++ toString cols ++ " keys, " ++ toString layers ++ " layers"
  | _, _ => return id

def list_lines (idx : Nat) : List String → Client Unit
  | [] => pure ()
  | id :: rest => do
      println (toString idx ++ ": " ++ (← describe_device id))
      list_lines (idx + 1) rest

def cmd_list : Client Unit := do
  let devices ← await list_devices
  if devices.isEmpty then println "No keyboards connected (or none that clackd manages)."
  else list_lines 0 devices

def cmd_info (device : String) : Client Unit := do
  let id ← resolve_device device
  let (model, rows, cols, layers) ← await (get_device_info id)
  let (vid, pid, name) ← await (get_device_identity id)
  print_lines
    [id ++ ":",
      "  name:    " ++ (if name.isEmpty then "(unknown)" else name),
      "  usb id:  " ++ hex_word vid ++ ":" ++ hex_word pid,
      "  driver:  " ++ (if model.isEmpty then "(unknown)" else model),
      "  matrix:  " ++ toString rows ++ " rows × " ++ toString cols ++ " columns",
      "  layers:  " ++ toString layers]

/-! ## Keymap -/

def cmd_get (device : String) (layer row col : UInt8) : Client Unit := do
  let id ← resolve_device device
  let code ← await (get_keycode id layer row col)
  println (describe code)

/-- The key is read before anything is called. -/
def cmd_set (device : String) (layer row col : UInt8) (key : String) : Client Unit := do
  let code ← parsed (parse_key key)
  let id ← resolve_device device
  await (set_keycode id layer row col code)
  println (id ++ ": layer " ++ toString layer ++ ", row " ++ toString row ++ ", col " ++
    toString col ++ " ← " ++ describe code)

/-- `0..n`. -/
def upTo (n : UInt8) : List UInt8 := (List.range n.toNat).map UInt8.ofNat

/-- The keycodes of one row. -/
def read_row (id : String) (layer row : UInt8) : List UInt8 → Client (List UInt16)
  | [] => pure []
  | col :: cols => do
      let code ← await (get_keycode id layer row col)
      return code :: (← read_row id layer row cols)

/-- The keycodes of one layer. -/
def read_grid (id : String) (layer : UInt8) (cols : List UInt8) :
    List UInt8 → Client (List (List UInt16))
  | [] => pure []
  | row :: rows => do
      let codes ← read_row id layer row cols
      return codes :: (← read_grid id layer cols rows)

/-- `{s:>width$}`. -/
def pad_left (width : Nat) (s : String) : String :=
  String.ofList (List.replicate (width - s.length) ' ') ++ s

/-- The lines that show one layer. -/
def layer_lines (id : String) (layer : UInt8) (cols : List UInt8) (grid : List (List UInt16)) :
    List String :=
  let labels := grid.map fun codes => codes.map short_label
  let width := (labels.flatten.map String.length).max?.getD 2
  let columns := fun texts : List String => String.join (texts.map fun s => " " ++ pad_left width s)
  [id ++ " layer " ++ toString layer ++ ":",
    "     " ++ columns (cols.map fun c => "c" ++ toString c)] ++
    labels.mapIdx (fun r texts => "  r" ++ toString r ++ " " ++ columns texts) ++ [""]

/-- Each layer is read as a whole and then printed. -/
def print_layers (id : String) (rows cols : List UInt8) : List UInt8 → Client Unit
  | [] => pure ()
  | layer :: layers => do
      let grid ← read_grid id layer cols rows
      print_lines (layer_lines id layer cols grid)
      print_layers id rows cols layers

def LEGEND : String := "-- = no key assigned · TRNS = falls through to the layer below"

def cmd_keymap (device : String) (layer : Option UInt8) : Client Unit := do
  let id ← resolve_device device
  let (_, rows, cols, layer_count) ← await (get_device_info id)
  print_layers id (upTo rows) (upTo cols) (layer.elim (upTo layer_count) fun l => [l])
  println LEGEND

/-- The line of one key in the list of names. -/
def key_line (k : Key) : String :=
  if k.aliases.isEmpty then prefixed_hex 6 k.code.toNat ++ "  " ++ k.name
  else
    prefixed_hex 6 k.code.toNat ++ "  " ++ k.name ++ "  (also: " ++
      ", ".intercalate k.aliases ++ ")"

def cmd_keys (filter : Option String) : Client Unit :=
  let shown := (ALL.map key_line).filter fun line =>
    filter.all fun f => contains (to_ascii_lowercase line) (to_ascii_lowercase f)
  if shown.isEmpty then println "No key names match — try `clackctl keys` for the full list."
  else print_lines shown

def cmd_commit (device : String) : Client Unit := do
  let id ← resolve_device device
  await (commit id)
  println (id ++ ": pending changes saved to the keyboard")

/-! ## Lighting -/

def CH_RGB_MATRIX : UInt8 := 3

def VAL_BRIGHTNESS : UInt8 := 1

def VAL_EFFECT : UInt8 := 2

def VAL_SPEED : UInt8 := 3

def VAL_COLOR : UInt8 := 4

inductive LightingAction where
  | show
  | brightness (value : String)
  | effect (effect : String)
  | speed (value : String)
  | color (color : String)
  | off
  | effects
  | getRaw (channel value_id : String)
  | setRaw (channel value_id data : String)
  deriving DecidableEq, Repr

/-- Short note for a failed lighting read. -/
def unsupported_note (display : BusError → String) (e : BusError) : String :=
  match e with
  | .methodError "org.freedesktop.DBus.Error.NotSupported" _ => "not supported by this keyboard"
  | e => "read failed (" ++ display e ++ ")"

/-- What is shown of one value: the report, if the reply has what it needs. -/
def shown_value (display : BusError → String) (report : List UInt8 → Option String) :
    Except BusError (List UInt8) → String
  | .ok data => (report data).getD "(empty reply)"
  | .error e => unsupported_note display e

def shown_effect : List UInt8 → Option String
  | v :: _ => some (if v = 0 then "off" else effect_label v)
  | [] => none

def shown_level : List UInt8 → Option String
  | v :: _ => some (percent v ++ " (" ++ toString v ++ "/255)")
  | [] => none

def shown_color : List UInt8 → Option String
  | h :: s :: _ =>
      let (r, g, b) := hs_to_rgb h s
      some (hex_color r g b ++ " (hue " ++ toString h ++ ", sat " ++ toString s ++ ")")
  | _ => none

/-- Reads the four RGB-matrix values; each read degrades independently. -/
def lighting_show (display : BusError → String) (id : String) : Client Unit := do
  println (id ++ " lighting:")
  println ("  effect:      " ++ shown_value display shown_effect
    (← attempt (get_lighting id CH_RGB_MATRIX VAL_EFFECT)))
  println ("  brightness:  " ++ shown_value display shown_level
    (← attempt (get_lighting id CH_RGB_MATRIX VAL_BRIGHTNESS)))
  println ("  speed:       " ++ shown_value display shown_level
    (← attempt (get_lighting id CH_RGB_MATRIX VAL_SPEED)))
  println ("  colour:      " ++ shown_value display shown_color
    (← attempt (get_lighting id CH_RGB_MATRIX VAL_COLOR)))

/-- `parse_hex_bytes(data)?`. -/
def hex_argument (data : String) : Client (List UInt8) :=
  (parse_hex_bytes data).elim (fail .panicked) parsed

/-- What is done to a device. -/
def act_lighting (display : BusError → String) (id : String) : LightingAction → Client Unit
  | .show => lighting_show display id
  | .brightness value => do
      let v ← parsed (parse_level value)
      await (set_lighting id CH_RGB_MATRIX VAL_BRIGHTNESS [v])
      println (id ++ ": brightness set to " ++ percent v ++ " (" ++ toString v ++ "/255)")
  | .speed value => do
      let v ← parsed (parse_level value)
      await (set_lighting id CH_RGB_MATRIX VAL_SPEED [v])
      println (id ++ ": effect speed set to " ++ percent v ++ " (" ++ toString v ++ "/255)")
  | .effect effect => do
      let e ← parsed (parse_effect effect)
      await (set_lighting id CH_RGB_MATRIX VAL_EFFECT [e])
      println (id ++ ": effect set to " ++ effect_label e)
  | .off => do
      await (set_lighting id CH_RGB_MATRIX VAL_EFFECT [0])
      println (id ++ ": lighting turned off")
  | .color color => do
      let (r, g, b) ← parsed (parse_color color)
      let (h, s) := rgb_to_hs r g b
      await (set_lighting id CH_RGB_MATRIX VAL_COLOR [h, s])
      println (id ++ ": colour set to " ++ hex_color r g b ++ " (hue " ++ toString h ++ ", sat " ++
        toString s ++ ")")
  | .effects => pure ()
  | .getRaw channel value_id => do
      let channel ← parsed (parse_u8 channel)
      let value_id ← parsed (parse_u8 value_id)
      let data ← await (get_lighting id channel value_id)
      println (to_hex data)
  | .setRaw channel value_id data => do
      let channel ← parsed (parse_u8 channel)
      let value_id ← parsed (parse_u8 value_id)
      let data ← hex_argument data
      await (set_lighting id channel value_id data)
      println "ok"

def EFFECTS_NOTE : String :=
  "(names are for the GMK67 family; other keyboards may map ids differently)"

/-- The effect listing is static, and needs no device. -/
def cmd_lighting (display : BusError → String) (device : String) (action : LightingAction) :
    Client Unit :=
  if action = .effects then
    print_lines (EFFECTS.map (fun (id, name) => prefixed_hex 4 id.toNat ++ "  " ++ name) ++
      [EFFECTS_NOTE])
  else do
    let id ← resolve_device device
    act_lighting display id action

/-! ## Macros -/

/-- A byte as a character, or a dot. -/
def ascii_char (b : UInt8) : Char :=
  if 0x20 ≤ b ∧ b ≤ 0x7E then Char.ofNat b.toNat else '.'

/-- `{s:<48}`. -/
def pad_right (width : Nat) (s : String) : String :=
  s ++ String.ofList (List.replicate (width - s.length) ' ')

/-- One line of a dump, of at most 16 bytes. -/
def dump_line (addr : Nat) (chunk : List UInt8) : String :=
  String.ofList (padded 16 4 addr) ++ "  " ++ pad_right 48 (to_hex chunk) ++ "  |" ++
    String.ofList (chunk.map ascii_char) ++ "|"

def dump_lines (offset : UInt16) (data : List UInt8) : List String :=
  (data.toChunks 16).mapIdx fun i chunk => dump_line (offset.toNat + i * 16) chunk

def cmd_get_macro (device offset : String) (length : UInt8) : Client Unit := do
  let id ← resolve_device device
  let off ← parsed (parse_u16 offset)
  let data ← await (read_macro_bytes id off length)
  print_lines (dump_lines off data)

def cmd_set_macro (device offset data : String) : Client Unit := do
  let id ← resolve_device device
  let off ← parsed (parse_u16 offset)
  let bytes ← hex_argument data
  await (write_macro_bytes id off bytes)
  println (id ++ ": wrote " ++ toString bytes.length ++ " bytes at offset " ++
    prefixed_hex 6 off.toNat)

/-! ## Commands -/

/-- A command line, but for `monitor`. -/
inductive Command where
  | list
  | info (device : String)
  | keymap (device : String) (layer : Option UInt8)
  | get (device : String) (layer row col : UInt8)
  | set (device : String) (layer row col : UInt8) (key : String)
  | keys (filter : Option String)
  | commit (device : String)
  | lighting (device : String) (action : Option LightingAction)
  | getMacro (device offset : String) (length : UInt8)
  | setMacro (device offset data : String)
  deriving DecidableEq, Repr

def run (display : BusError → String) : Command → Client Unit
  | .list => cmd_list
  | .info device => cmd_info device
  | .keymap device layer => cmd_keymap device layer
  | .get device layer row col => cmd_get device layer row col
  | .set device layer row col key => cmd_set device layer row col key
  | .keys filter => cmd_keys filter
  | .commit device => cmd_commit device
  | .lighting device action => cmd_lighting display device (action.getD .show)
  | .getMacro device offset length => cmd_get_macro device offset length
  | .setMacro device offset data => cmd_set_macro device offset data

end Clackd.Cli
