import ComponentSplit.Charset.Punycode
import ComponentSplit.Text.Lowercase

namespace ComponentSplit.Charset.HostName

/-- The prefix of a label in ASCII form. -/
def marker : List Char := "xn--".toList

def isDot (c : Char) : Bool := ['.', '。', '．', '｡'].contains c

def isAsciiText (cs : List Char) : Bool := cs.all (·.toNat < 0x80)

def isDropped (c : Char) : Bool :=
  ['\xad', '\u034f', '\u1806', '\u180b', '\u180c', '\u180d', '\u200b', '\u200c', '\u200d',
    '\u2060', '\ufeff'].contains c || (0xFE00 ≤ c.toNat && c.toNat ≤ 0xFE0F)

def prepare (label : List Char) : List Char :=
  (label.filter (!isDropped ·)).flatMap fun c => if c = 'ß' then ['s', 's'] else lowerChar [] c []

def checkLength (label : List Char) : Except TextFault (List Char) :=
  if 0 < label.length && label.length < 64 then .ok label else .error .badLabelLength

def labelToAscii (label : List Char) : Except TextFault (List Char) :=
  if isAsciiText label then checkLength label
  else
    let label := prepare label
    if isAsciiText label then checkLength label
    else if marker.isPrefixOf label then .error .markedLabel
    else checkLength (marker ++ Punycode.encode label)

def labels (isDot : Char → Bool) : List Char → List (List Char)
  | [] => [[]]
  | c :: rest =>
    match labels isDot rest with
    | [] => [[c]]
    | label :: more => if isDot c then [] :: label :: more else (c :: label) :: more

/-- The labels, and the dot that follows the last one if there is one. -/
def split (isDot : Char → Bool) (text : List Char) : List (List Char) × List Char :=
  let all := labels isDot text
  if all.getLast? = some [] then (all.dropLast, ['.']) else (all, [])

def join (labels : List (List Char)) : List Char := ['.'].intercalate labels

/-- A host name in ASCII. One that is in ASCII is kept, and its last label may be empty. -/
def encode (text : List Char) : Except TextFault (List Char) :=
  if text.isEmpty then .ok []
  else if isAsciiText text then
    let all := labels (· == '.') text
    if all.dropLast.any fun label => label.isEmpty || 64 ≤ label.length then
      .error .badLabelLength
    else if 64 ≤ (all.getLastD []).length then .error .longLabel
    else .ok text
  else do
    let (all, dot) := split isDot text
    let forms ← all.mapM labelToAscii
    pure (join forms ++ dot)

/-- The part of a label before its last hyphen, and the part behind it. -/
def splitAtHyphen (label : List Char) : List Char × List Char :=
  if label.contains '-' then
    ((label.reverse.dropWhile (· != '-')).drop 1 |>.reverse,
      (label.reverse.takeWhile (· != '-')).reverse)
  else ([], label)

/-- The label that an ASCII label means. Its ASCII form has to be the label again. -/
def labelOfAscii (label : List Char) : Except TextFault (List Char) :=
  if marker.isPrefixOf label then
    let (basic, digits) := splitAtHyphen (label.drop marker.length)
    match Punycode.decode basic digits with
    | .error fault => .error (.badLabel fault)
    | .ok text =>
      match labelToAscii text with
      | .error fault => .error fault
      | .ok back =>
        if label.map Char.toLower = back then .ok text
        else .error (.unlikeLabel (String.ofList label) (String.ofList back))
  else .ok label

/-- The text that a host name in ASCII means. -/
def decode (name : List Char) : Except TextFault (List Char) :=
  if name.isEmpty then .ok []
  else do
    let (all, dot) := split (· == '.') name
    let texts ← all.mapM labelOfAscii
    pure (join texts ++ dot)

end ComponentSplit.Charset.HostName
