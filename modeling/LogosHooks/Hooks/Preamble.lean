import LogosHooks.Text.Line

/-!
The text at the top of an output file, before the hooks of any class.
-/
namespace LogosHooks

structure Preamble where
  /-- Import lines for the frameworks. -/
  includes : Bool := false
  /-- A constructor that logs when the library is loaded. -/
  loadHook : Bool := false
deriving DecidableEq, Repr

def frameworkHeaders : List String :=
  ["CoreFoundation/CoreFoundation.h", "Foundation/Foundation.h", "Security/Security.h",
    "Security/SecCertificate.h"]

def includeLines : List Text :=
  frameworkHeaders.map (fun h => "#import <".toList ++ h.toList ++ ['>']) ++
    [[], "#import \"substrate.h\"".toList, [], []]

def loadHookLines : List Text :=
  ["/* Dylib Constructor */".toList, "%ctor ".toList ++ ['\x7b'],
    "    NSLog(@\" --- Hooker Loaded: %s --- \", __FILE__);".toList, ['\x7d'], []]

def Preamble.text (o : Preamble) : Text :=
  Text.ofLines ((if o.includes then includeLines else []) ++
    if o.loadHook then loadHookLines else [])

end LogosHooks
