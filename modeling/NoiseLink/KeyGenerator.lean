import NoiseLink.Key

namespace NoiseLink.KeyGenerator

def output (S : Suite) (secret : S.Secret) : List (String × String) :=
  [("Static Secret Key", S.secret.print secret), ("Node Id", S.point.print (S.publicKey secret))]

def line (entry : String × String) : String := entry.1 ++ ": " ++ entry.2

end NoiseLink.KeyGenerator
