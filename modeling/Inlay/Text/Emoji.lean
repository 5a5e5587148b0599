import Inlay.Text.Property

/-! # Sequences of characters that are shown as one picture

    Pictures of one character may be followed by a tone of skin or by a mark that asks for a
    picture; several may be joined to one.  Only the sequences in common use are listed. -/

namespace Inlay.Text.Emoji

/-- Asks for a picture where a character is also shown as text. -/
def pictured : Nat := 0xfe0f

def joiner : Nat := 0x200d

def tones : List Nat := [0x1f3fb, 0x1f3fc, 0x1f3fd, 0x1f3fe, 0x1f3ff]

def points (r : Ranges) : List Nat :=
  r.runs.toList.flatMap fun (a, b) => (List.range (b + 1 - a)).map (a + ·)

def listed (s : String) : List Nat := points (.ofText s)

def having (name : String) : List Nat := points ((property? name none).getD .empty)

/-- Pictures of one character, and characters that become one by a mark. -/
def basic : List (List Nat) :=
  let shown := having "Emoji_Presentation"
  let flags := having "Regional_Indicator"
  let marks := listed "bJHG+J"
  (shown.filter (!flags.contains ·)).map (fun c => [c])
    ++ ((having "Emoji").filter fun c => !shown.contains c && !marks.contains c).map
      fun c => [c, pictured]

def keycaps : List (List Nat) := (listed "bJHG+J").map fun c => [c, pictured, 0x20e3]

/-- Persons and parts of the body in a tone of skin. -/
def toned : List (List Nat) :=
  ((having "Emoji_Modifier_Base").filter fun c => !([0x1f46a, 0x1f46f, 0x1f93c].contains c)).flatMap
    fun c => tones.map fun t => [c, t]

def regionFlags : List (List Nat) :=
  (groups
    "aCaDaEaFaGaIaLaMaOaQaRaSaTaUaWaXaZbAbBbDbEbFbGbHbIbJbLbMbNbObQbRbSbTbVbWbYbZcAcCcDcFcGcH
     cIcKcLcMcNcOcPcRcUcVcWcXcYcZdEdGdJdKdMdOdZeAeCeEeGeHeReSeTeUfIfJfKfMfOfRgAgBgDgEgFgGgHgIgLgMgN
     gPgQgRgSgTgUgWgYhKhMhNhRhThUiCiDiEiLiMiNiOiQiRiSiTjEjMjOjPkEkGkHkIkMkNkPkRkWkYkZlAlBlClIlKlRlS
     lTlUlVlYmAmCmDmEmFmGmHmKmLmMmNmOmPmQmRmSmTmUmVmWmXmYmZnAnCnEnFnGnInLnOnPnRnUnZoMpApEpFpGpHpKpL
     pMpNpRpSpTpWpYqArErOrSrUrWsAsBsCsDsEsGsHsIsJsKsLsMsNsOsRsSsTsVsXsYsZtAtCtDtFtGtHtJtKtLtMtNtOtR
     tTtVtWtZuAuGuMuNuSuYuZvAvCvEvGvIvNvUwFwSxKyEyTzAzMzW").map fun g =>
    g.flatMap fun n => [0x1f1e6 + n / 26, 0x1f1e6 + n % 26]

def tagged : List (List Nat) :=
  ["gbeng", "gbsct", "gbwls"].map fun s =>
    0x1f3f4 :: s.toList.map (fun c => 0xe0000 + c.toNat) ++ [0xe007f]

/-! ## Joined pictures -/

def man : Nat := 0x1f468
def woman : Nat := 0x1f469
def person : Nat := 0x1f9d1

def join (parts : List (List Nat)) : List Nat := [joiner].intercalate parts

/-- A person without a tone of skin and in every tone. -/
def inTones (c : Nat) : List (List Nat) := [c] :: tones.map fun t => [c, t]

/-- Two persons in tones of skin that differ, or also in equal ones. -/
def pairs (a b : Nat) (equal : Bool) : List (List Nat × List Nat) :=
  tones.flatMap fun s => (tones.filter fun t => equal || s != t).map fun t => ([a, s], [b, t])

def couples : List (List Nat) :=
  let heart := [[0x2764, pictured]]
  let links := [heart, heart ++ [[0x1f48b]]]
  let both := [(man, man), (woman, man), (woman, woman)].flatMap fun (a, b) =>
    ([a], [b]) :: pairs a b true
  let all := both ++ pairs person person false
  all.flatMap fun (a, b) => links.map fun l => join ([a] ++ l ++ [b])

def handsHeld : List (List Nat) :=
  let all := pairs woman man false ++ pairs woman woman false ++ pairs man man false
    ++ ([person], [person]) :: pairs person person true
  all.map (fun (a, b) => join [a, [0x1f91d], b])
    ++ (pairs 0x1faf1 0x1faf2 false).map fun (a, b) => join [a, b]

def families : List (List Nat) :=
  let boy := [0x1f466]
  let girl := [0x1f467]
  let child := [0x1f9d2]
  let children := [[boy], [girl], [girl, boy], [boy, boy], [girl, girl]]
  let parents := [[[man]], [[woman]], [[man], [man]], [[man], [woman]], [[woman], [woman]]]
  parents.flatMap (fun p => children.map fun c => join (p ++ c))
    ++ [[[person]], [[person], [person]]].flatMap fun p =>
      [join (p ++ [child]), join (p ++ [child, child])]

def rightward : List Nat := [0x27a1, pictured]

def roles : List (List Nat) :=
  let things := [[0x2695, pictured], [0x2696, pictured], [0x2708, pictured]]
    ++ (listed "hhbQcBJXREcPChYBeDFnCSbeR+EJ+B").map fun c => [c]
  let moving := [0x1f9af, 0x1f9bc, 0x1f9bd].map fun c => [c]
  [man, woman, person].flatMap fun p => (inTones p).flatMap fun who =>
    (things ++ if p == person then [[0x1f384]] else []).map (fun t => join [who, t])
      ++ moving.map fun t => join [who, t, rightward]

/-- Activities and beings, as women and as men. -/
def genders : List (List Nat) :=
  let signs := [[0x2640, pictured], [0x2642, pictured]]
  let plain := [0x1f46f, 0x1f93c, 0x1f9de, 0x1f9df]
  let marked := [0x26f9, 0x1f3cb, 0x1f3cc, 0x1f575]
  let active := listed "hhgTBGgICBCEKBEBrE+CECBdHR+CyAPC+CEBeSBU+CFC+H"
  let who := plain.map (fun c => [c])
    ++ marked.flatMap (fun c => [c, pictured] :: tones.map fun t => [c, t])
    ++ active.flatMap inTones
  who.flatMap (fun w => signs.map fun s => join [w, s])
    ++ ([0x1f3c3, 0x1f6b6, 0x1f9ce].flatMap inTones).flatMap fun w =>
      join [w, rightward] :: signs.map fun s => join [w, s, rightward]

def things : List (List Nat) :=
  [[[0x1f3f3, pictured], [0x1f308]], [[0x1f3f3, pictured], [0x26a7, pictured]],
   [[0x1f3f4], [0x2620, pictured]], [[0x1f415], [0x1f9ba]], [[0x1f43b], [0x2744, pictured]],
   [[0x1f441, pictured], [0x1f5e8, pictured]], [[0x1f62e], [0x1f4a8]], [[0x1f635], [0x1f4ab]],
   [[0x1f636], [0x1f32b, pictured]], [[0x1f408], [0x2b1b]], [[0x1f426], [0x2b1b]],
   [[0x1f426], [0x1f525]], [[0x2764, pictured], [0x1f525]], [[0x2764, pictured], [0x1fa79]],
   [[0x1f34b], [0x1f7e9]], [[0x1f344], [0x1f7eb]], [[0x26d3, pictured], [0x1f4a5]],
   [[0x1f642], [0x2194, pictured]], [[0x1f642], [0x2195, pictured]]].map join

def joinedPictures : List (List Nat) :=
  couples ++ handsHeld ++ families ++ roles ++ genders ++ things

def sequences? (name : String) : Option (List (List Nat)) :=
  match name with
  | "Basic_Emoji" => some basic
  | "Emoji_Keycap_Sequence" => some keycaps
  | "RGI_Emoji_Modifier_Sequence" => some toned
  | "RGI_Emoji_Flag_Sequence" => some regionFlags
  | "RGI_Emoji_Tag_Sequence" => some tagged
  | "RGI_Emoji_ZWJ_Sequence" => some joinedPictures
  | "RGI_Emoji" => some (basic ++ keycaps ++ toned ++ regionFlags ++ tagged ++ joinedPictures)
  | _ => none

end Inlay.Text.Emoji
