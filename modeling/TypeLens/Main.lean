import TypeLens.Command.Run

/-! The program: reads what the command line names, and prints what the command answers. -/
namespace TypeLens.Command

def errorNumber (number : UInt32) : Nat := min number.toNat (0 - number).toNat

def systemFault (number : UInt32) (details : String) : ReadFault :=
  let number := errorNumber number
  if number = 20 then .notDirectory else if number = 21 then .isDirectory else .system details number

def readFault : IO.Error → ReadFault
  | .noFileOrDirectory _ _ _ => .notFound
  | .inappropriateType _ number details => systemFault number details
  | .permissionDenied _ number details => systemFault number details
  | .resourceExhausted _ number details => systemFault number details
  | .invalidArgument _ number details => systemFault number details
  | error => .system (toString error) 0

def readFile (path : Text) : IO Content := do
  try
    return .ok (← IO.FS.readBinFile (String.ofList path))
  catch error => return .error (readFault error)

def readStandard : IO Content := do
  try
    return .ok (← (← IO.getStdin).readBinToEnd)
  catch error => return .error (readFault error)

def gather (fresh : Bool) (inputs : Inputs) : List Text → IO Inputs
  | [] => return inputs
  | path :: paths => do
    if path = dash then
      let standard ← if fresh then readStandard else pure inputs.standard
      gather false { inputs with standard := standard } paths
    else
      let content ← readFile path
      let inputs := { inputs with file := fun name => if name = path then content else inputs.file name }
      if content.isOk then gather fresh inputs paths else return inputs

end TypeLens.Command

open TypeLens.Command in
def main (words : List String) : IO UInt32 := do
  let order := Order.read (words.map String.toList)
  let nothing : Inputs := ⟨fun _ => .error .notFound, .ok .empty⟩
  let inputs ← match order with
    | .perform request => gather true nothing request.paths
    | _ => pure nothing
  let output := order.run inputs
  (← IO.getStdout).putStr (String.ofList output.standard)
  (← IO.getStderr).putStr (String.ofList output.error)
  return output.status.toUInt32
