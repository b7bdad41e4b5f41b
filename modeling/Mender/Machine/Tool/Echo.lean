import Mender.Machine.Tool.Basic
import Mender.Machine.Tool.Escape

namespace Mender.Machine.Tool

def unescapeAll : Nat → List Char → List Char × Bool
  | 0, _ => ([], false)
  | _ + 1, [] => ([], false)
  | _ + 1, '\\' :: 'c' :: _ => ([], true)
  | fuel + 1, '\\' :: 'x' :: cs =>
    match (cs.take 2).takeWhile (isDigitIn 16) with
    | [] =>
      let (later, stop) := unescapeAll fuel cs
      ('\\' :: 'x' :: later, stop)
    | ds =>
      let (later, stop) := unescapeAll fuel (cs.drop ds.length)
      (Char.ofNat (numberIn 16 ds) :: later, stop)
  | fuel + 1, '\\' :: cs =>
    let (c, rest) := escapeInFront true cs
    let (later, stop) := unescapeAll fuel rest
    (c :: later, stop)
  | fuel + 1, c :: cs =>
    let (later, stop) := unescapeAll fuel cs
    (c :: later, stop)

def echoText (resolve : List Char → List Char × Bool) (newline : Bool) (arguments : List String) :
    String :=
  let (cs, stop) := resolve (" ".intercalate arguments).toList
  .ofList (cs ++ if stop || !newline then [] else ['\n'])

def echoBuiltin : Tool := fun c =>
  let resolve (cs : List Char) : List Char × Bool := unescape (cs.length + 1) cs
  match c.arguments with
  | "-n" :: rest => c.answer 0 [.out (echoText resolve false rest)]
  | arguments => c.answer 0 [.out (echoText resolve true arguments)]

def isEchoOption (s : String) : Bool :=
  match s.toList with
  | '-' :: c :: cs => (c :: cs).all (· ∈ ['n', 'e', 'E'])
  | _ => false

def echo : Tool := fun c =>
  let options := (c.arguments.takeWhile isEchoOption).flatMap (·.toList.tail)
  let rest := c.arguments.dropWhile isEchoOption
  let escapes := (options.filter (· ≠ 'n')).getLast? = some 'e'
  let resolve (cs : List Char) : List Char × Bool :=
    if escapes then unescapeAll (cs.length + 1) cs else (cs, false)
  c.answer 0 [.out (echoText resolve ('n' ∉ options) rest)]

end Mender.Machine.Tool
