import NoiseLink.KeyGenerator
import NoiseLink.Machine
import NoiseLink.Suite.Standard

namespace NoiseLink.KeyGenerator

def print : IO Unit := do
  for entry in output Suite.standard (← Machine.freshSecret Suite.standard) do IO.println (line entry)

end NoiseLink.KeyGenerator
