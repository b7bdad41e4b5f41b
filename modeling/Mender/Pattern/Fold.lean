import Mender.Pattern.Ranges

namespace Mender.Pattern

/-- Runs of folded characters: first in hexadecimal, count, distance, target in hexadecimal. -/
def foldText : String :=
    "41.26.1.61 B5.1.1.3BC C0.23.1.E0 D8.7.1.F8 100.24.2.101 132.3.2.133 139.8.2.13A 14A.23.2.14B
    178.1.1.FF 179.3.2.17A 17F.1.1.73 181.1.1.253 182.2.2.183 186.1.1.254 187.1.1.188
    189.2.1.256 18B.1.1.18C 18E.1.1.1DD 18F.1.1.259 190.1.1.25B 191.1.1.192 193.1.1.260
    194.1.1.263 196.1.1.269 197.1.1.268 198.1.1.199 19C.1.1.26F 19D.1.1.272 19F.1.1.275
    1A0.3.2.1A1 1A6.1.1.280 1A7.1.1.1A8 1A9.1.1.283 1AC.1.1.1AD 1AE.1.1.288 1AF.1.1.1B0
    1B1.2.1.28A 1B3.2.2.1B4 1B7.1.1.292 1B8.1.1.1B9 1BC.1.1.1BD 1C4.1.1.1C6 1C5.1.1.1C6
    1C7.1.1.1C9 1C8.1.1.1C9 1CA.1.1.1CC 1CB.9.2.1CC 1DE.9.2.1DF 1F1.1.1.1F3 1F2.2.2.1F3
    1F6.1.1.195 1F7.1.1.1BF 1F8.20.2.1F9 220.1.1.19E 222.9.2.223 23A.1.1.2C65 23B.1.1.23C
    23D.1.1.19A 23E.1.1.2C66 241.1.1.242 243.1.1.180 244.1.1.289 245.1.1.28C 246.5.2.247
    345.1.1.3B9 370.2.2.371 376.1.1.377 37F.1.1.3F3 386.1.1.3AC 388.3.1.3AD 38C.1.1.3CC
    38E.2.1.3CD 391.17.1.3B1 3A3.9.1.3C3 3C2.1.1.3C3 3CF.1.1.3D7 3D0.1.1.3B2 3D1.1.1.3B8
    3D5.1.1.3C6 3D6.1.1.3C0 3D8.12.2.3D9 3F0.1.1.3BA 3F1.1.1.3C1 3F4.1.1.3B8 3F5.1.1.3B5
    3F7.1.1.3F8 3F9.1.1.3F2 3FA.1.1.3FB 3FD.3.1.37B 400.16.1.450 410.32.1.430 460.17.2.461
    48A.27.2.48B 4C0.1.1.4CF 4C1.7.2.4C2 4D0.48.2.4D1 531.38.1.561 10A0.38.1.2D00 10C7.1.1.2D27
    10CD.1.1.2D2D 13F8.6.1.13F0 1C80.1.1.432 1C81.1.1.434 1C82.1.1.43E 1C83.2.1.441 1C85.1.1.442
    1C86.1.1.44A 1C87.1.1.463 1C88.1.1.A64B 1C89.1.1.1C8A 1C90.43.1.10D0 1CBD.3.1.10FD
    1E00.75.2.1E01 1E9B.1.1.1E61 1E9E.1.1.DF 1EA0.48.2.1EA1 1F08.8.1.1F00 1F18.6.1.1F10
    1F28.8.1.1F20 1F38.8.1.1F30 1F48.6.1.1F40 1F59.4.2.1F51 1F68.8.1.1F60 1F88.8.1.1F80
    1F98.8.1.1F90 1FA8.8.1.1FA0 1FB8.2.1.1FB0 1FBA.2.1.1F70 1FBC.1.1.1FB3 1FBE.1.1.3B9
    1FC8.4.1.1F72 1FCC.1.1.1FC3 1FD3.1.1.390 1FD8.2.1.1FD0 1FDA.2.1.1F76 1FE3.1.1.3B0
    1FE8.2.1.1FE0 1FEA.2.1.1F7A 1FEC.1.1.1FE5 1FF8.2.1.1F78 1FFA.2.1.1F7C 1FFC.1.1.1FF3
    2126.1.1.3C9 212A.1.1.6B 212B.1.1.E5 2132.1.1.214E 2160.16.1.2170 2183.1.1.2184
    24B6.26.1.24D0 2C00.48.1.2C30 2C60.1.1.2C61 2C62.1.1.26B 2C63.1.1.1D7D 2C64.1.1.27D
    2C67.3.2.2C68 2C6D.1.1.251 2C6E.1.1.271 2C6F.1.1.250 2C70.1.1.252 2C72.1.1.2C73
    2C75.1.1.2C76 2C7E.2.1.23F 2C80.50.2.2C81 2CEB.2.2.2CEC 2CF2.1.1.2CF3 A640.23.2.A641
    A680.14.2.A681 A722.7.2.A723 A732.31.2.A733 A779.2.2.A77A A77D.1.1.1D79 A77E.5.2.A77F
    A78B.1.1.A78C A78D.1.1.265 A790.2.2.A791 A796.10.2.A797 A7AA.1.1.266 A7AB.1.1.25C
    A7AC.1.1.261 A7AD.1.1.26C A7AE.1.1.26A A7B0.1.1.29E A7B1.1.1.287 A7B2.1.1.29D A7B3.1.1.AB53
    A7B4.8.2.A7B5 A7C4.1.1.A794 A7C5.1.1.282 A7C6.1.1.1D8E A7C7.2.2.A7C8 A7CB.1.1.264
    A7CC.1.1.A7CD A7D0.1.1.A7D1 A7D6.3.2.A7D7 A7DC.1.1.19B A7F5.1.1.A7F6 AB70.80.1.13A0
    FB05.1.1.FB06 FF21.26.1.FF41 10400.40.1.10428 104B0.36.1.104D8 10570.19.2.10597
    10571.5.2.10598 1057D.7.2.105A4 1058D.3.2.105B4 10595.1.1.105BC 10C80.51.1.10CC0
    10D50.22.1.10D70 118A0.32.1.118C0 16E40.32.1.16E60 1E900.34.1.1E922"

/-- A first code point, how many follow it at which distance, and what the first folds to; the
others fold at the same distance. -/
structure FoldRun where
  first : Nat
  count : Nat
  step : Nat
  target : Nat

def foldRuns : Array FoldRun := (tableWords foldText).toArray.map fun run =>
  match run.splitOn "." with
  | [a, n, s, b] => ⟨Ranges.hex a, n.toNat?.getD 0, s.toNat?.getD 0, Ranges.hex b⟩
  | _ => ⟨0, 0, 1, 0⟩

def FoldRun.last (r : FoldRun) : Nat := r.first + (r.count - 1) * r.step

def foldCase (n : Nat) : Nat :=
  match foldRuns.find? fun r => r.first ≤ n && n ≤ r.last && (n - r.first) % r.step = 0 with
  | some r => r.target + (n - r.first)
  | none => n

def foldOrbit (n : Nat) : List Nat :=
  let t := foldCase n
  t :: foldRuns.toList.filterMap fun r =>
    let c := r.first + (t - r.target)
    if r.target ≤ t && foldCase c = t && c ≠ t && c ≤ r.last then some c else none

def foldedPoints : List Nat :=
  foldRuns.toList.flatMap fun r => (List.range r.count).map fun i => r.first + i * r.step

def Ranges.folded (r : Ranges) : Ranges :=
  let added := foldedPoints.flatMap fun n =>
    let t := foldCase n
    if r.contains n then [(t, t)] ++ (foldOrbit t).map fun c => (c, c)
    else if r.contains t then [(n, n)]
    else []
  .ofList (r.toList ++ added)

def asciiOrbit (n : Nat) : List Nat :=
  if 65 ≤ n ∧ n ≤ 90 then [n, n + 32] else if 97 ≤ n ∧ n ≤ 122 then [n, n - 32] else [n]

def Ranges.asciiFolded (r : Ranges) : Ranges :=
  let letters := (List.range 26).flatMap fun i => [65 + i, 97 + i]
  let added := letters.flatMap fun n => if r.contains n then asciiOrbit n else []
  .ofList (r.toList ++ added.map fun c => (c, c))

end Mender.Pattern
