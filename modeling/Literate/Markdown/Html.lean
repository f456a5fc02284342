import Literate.Markdown.Target

/-!
# HTML in Markdown

Where raw HTML begins and ends, as a block of lines or within a line, and the links between
angle brackets that look like it.
-/

namespace Literate.Markdown

/-! ### Blocks -/

/-- What ends a block of HTML. -/
inductive HtmlEnd where
  /-- The line that holds a text is the last one. -/
  | text (closing : Text)
  /-- The block ends before a blank line. -/
  | blank
deriving DecidableEq

/-- Elements whose content is raw, with their closing tags. -/
def rawElements : List (Text × Text) :=
  ["pre", "style", "script", "textarea"].map fun name =>
    (name.toList, ("</" ++ name ++ ">").toList)

/-- Other beginnings of raw content, with their ends. -/
def rawSections : List (Text × Text) :=
  [("!--".toList, "-->".toList), ("?".toList, "?>".toList), ("![CDATA[".toList, "]]>".toList)]

/-- The text that ends raw content, of whose beginning the angle bracket was read. -/
def rawEnd? (t : Text) : Option Text :=
  let element := rawElements.find? fun (name, _) =>
    (t.take name.length).map Char.toLower == name
      && match t.drop name.length with
        | [] => true
        | c :: _ => isSpace c || c == '>'
  match element with
  | some (_, closing) => some closing
  | none =>
      match rawSections.find? fun (lead, _) => lead.isPrefixOf t with
      | some (_, closing) => some closing
      | none =>
          match t with
          | '!' :: c :: _ => if c.isAlpha then some ['>'] else none
          | _ => none

/-- Elements that are blocks of a page. -/
def blockElements : List String :=
  ["address", "article", "aside", "base", "basefont", "blockquote", "body", "caption", "center",
    "col", "colgroup", "dd", "details", "dialog", "dir", "div", "dl", "dt", "fieldset",
    "figcaption", "figure", "footer", "form", "frame", "frameset", "h1", "h2", "h3", "h4", "h5",
    "h6", "head", "header", "hr", "html", "iframe", "legend", "li", "link", "main", "menu",
    "menuitem", "nav", "noframes", "ol", "optgroup", "option", "p", "param", "search", "section",
    "summary", "table", "tbody", "td", "tfoot", "th", "thead", "title", "tr", "track", "ul"]

/-- Whether the name of a block element follows an angle bracket, or a slash behind it. -/
def startsBlockElement (t : Text) : Bool :=
  let name := match t with
    | '/' :: rest => rest
    | _ => t
  blockElements.contains (String.ofList ((name.takeWhile Char.isAlphanum).map Char.toLower))
    && match name.dropWhile Char.isAlphanum with
      | [] => true
      | '/' :: '>' :: _ => true
      | c :: _ => c == ' ' || c == '\t' || isLineEnd c || c == '>'

/-! ### Tags -/

/-- Go over white space, line ends included where further lines are allowed. -/
def tagSpace (entry : LineEntry) (t : Text) : Option (Text × Text) :=
  go t.length [] t
where
  /-- Go on with a bound on the characters left; gives what was passed, reversed. -/
  go : Nat → Text → Text → Option (Text × Text)
    | 0, passed, t => some (passed, t)
    | fuel + 1, passed, t =>
        match t with
        | [] => none
        | c :: rest =>
            if isLineSpace c then go fuel (c :: passed) rest
            else if isLineEnd c then do
              let next ← dropLineEnd? (c :: rest)
              let broken := (c :: rest).take ((c :: rest).length - next.length)
              go fuel (broken.reverse ++ passed) (← entry next)
            else some (passed, t)

def isAttributeStart (c : Char) : Bool := c.isAlpha || c == '_' || c == ':'

def isAttributeChar (c : Char) : Bool :=
  c.isAlphanum || c == '_' || c == '.' || c == ':' || c == '-'

def isBareValueChar (c : Char) : Bool :=
  !isSpace c && c != '"' && c != '\'' && c != '=' && c != '<' && c != '>' && c != '`'

/-- Go over a quoted value behind its opening quote. -/
def quotedValue (entry : LineEntry) (quote : Char) (t : Text) : Option (Text × Text) :=
  go t.length [] t
where
  go : Nat → Text → Text → Option (Text × Text)
    | 0, _, _ => none
    | fuel + 1, passed, t =>
        match t with
        | [] => none
        | c :: rest =>
            if c == quote then some (c :: passed, rest)
            else if isLineEnd c then do
              let next ← dropLineEnd? (c :: rest)
              let broken := (c :: rest).take ((c :: rest).length - next.length)
              go fuel (broken.reverse ++ passed) (← entry next)
            else go fuel (c :: passed) rest

/-- Go over an attribute: a name, with a value behind an equals sign or without. -/
def attribute? (entry : LineEntry) (t : Text) : Option (Text × Text) :=
  match t with
  | c :: _ =>
      if isAttributeStart c then do
        let name := t.takeWhile isAttributeChar
        let afterName := t.dropWhile isAttributeChar
        let (space, behind) ← tagSpace entry afterName
        match behind with
        | '=' :: value => do
            let (space', value) ← tagSpace entry value
            let lead := space' ++ '=' :: (space ++ name.reverse)
            match value with
            | q :: inner =>
                if q == '"' || q == '\'' then
                  (quotedValue entry q inner).map fun (passed, after) =>
                    (passed ++ q :: lead, after)
                else
                  let bare := value.takeWhile isBareValueChar
                  if bare.isEmpty then none
                  else some (bare.reverse ++ lead, value.dropWhile isBareValueChar)
            | [] => none
        | _ => some (name.reverse, afterName)
      else none
  | [] => none

/-- Go over attributes up to the end of an opening tag. White space stands before each. -/
def attributes? (entry : LineEntry) (t : Text) : Option (Text × Text) :=
  go t.length [] t
where
  /-- Go on with a bound on the attributes left; gives what was passed, reversed. -/
  go : Nat → Text → Text → Option (Text × Text)
    | 0, _, _ => none
    | fuel + 1, passed, t => do
        let (space, behind) ← tagSpace entry t
        match behind with
        | '>' :: rest => some ('>' :: (space ++ passed), rest)
        | '/' :: '>' :: rest => some ('>' :: '/' :: (space ++ passed), rest)
        | _ =>
            if space.isEmpty then none
            else do
              let (more, after) ← attribute? entry behind
              go fuel (more ++ space ++ passed) after

def isTagChar (c : Char) : Bool := c.isAlphanum || c == '-'

/-- A complete opening or closing tag behind its angle bracket: the tag's text and what follows
it. The marks of containers at the start of further lines are not part of the tag. -/
def tag? (entry : LineEntry) (t : Text) : Option (Text × Text) :=
  match t with
  | '/' :: c :: rest =>
      if c.isAlpha then
        let name := rest.takeWhile isTagChar
        let behind := rest.dropWhile isTagChar
        let space := behind.takeWhile isLineSpace
        match behind.dropWhile isLineSpace with
        | '>' :: after => some ('<' :: '/' :: c :: (name ++ space ++ ['>']), after)
        | _ => none
      else none
  | c :: rest =>
      if c.isAlpha then
        let name := rest.takeWhile isTagChar
        (attributes? entry (rest.dropWhile isTagChar)).map fun (passed, after) =>
          ('<' :: c :: (name ++ passed.reverse), after)
      else none
  | [] => none

/-- Whether a line consists of one complete tag. -/
def isTagLine (t : Text) : Bool :=
  match t with
  | '<' :: rest =>
      match tag? (fun _ => none) rest with
      | some (_, behind) => isBlankLine behind
      | none => false
  | _ => false

/-- What ends the block of HTML that begins with a line, if one does. Complete tags that are no
block elements count only where they need not interrupt a paragraph. -/
def htmlEnd? (interrupting : Bool) (t : Text) : Option HtmlEnd :=
  match t with
  | '<' :: rest =>
      match rawEnd? rest with
      | some closing => some (.text closing)
      | none =>
          if startsBlockElement rest || (!interrupting && isTagLine t) then some .blank else none
  | _ => none

/-! ### Inline HTML -/

/-- The text up to and with the first occurrence of another one. -/
def through? (closing : Text) : Text → Option (Text × Text)
  | [] => none
  | c :: rest =>
      match closing.isPrefixOf? (c :: rest) with
      | some behind => some (closing, behind)
      | none => (through? closing rest).map fun (passed, behind) => (c :: passed, behind)

/-- HTML within a line behind its angle bracket: a comment, an instruction, a declaration,
character data or a tag. Gives its whole text and what follows it. -/
def inlineHtml? (entry : LineEntry) (t : Text) : Option (Text × Text) :=
  let wrap (lead : Text) (found : Option (Text × Text)) : Option (Text × Text) :=
    found.map fun (passed, behind) => ('<' :: (lead ++ passed), behind)
  match t with
  | '!' :: '-' :: '-' :: '>' :: rest => some ("<!-->".toList, rest)
  | '!' :: '-' :: '-' :: '-' :: '>' :: rest => some ("<!--->".toList, rest)
  | '!' :: '-' :: '-' :: rest => wrap "!--".toList (through? "-->".toList rest)
  | '!' :: '[' :: 'C' :: 'D' :: 'A' :: 'T' :: 'A' :: '[' :: rest =>
      wrap "![CDATA[".toList (through? "]]>".toList rest)
  | '!' :: c :: rest =>
      if c.isAlpha then wrap ['!', c] (through? ['>'] rest) else none
  | '?' :: rest => wrap ['?'] (through? "?>".toList rest)
  | _ => tag? entry t

/-! ### Links in angle brackets -/

def isSchemeChar (c : Char) : Bool := c.isAlphanum || c == '.' || c == '-' || c == '+'

def isAddressChar (c : Char) : Bool := 32 < c.toNat && c != '<' && c != '>'

/-- An absolute address behind an angle bracket, and the text behind its closing bracket. -/
def addressLink? (t : Text) : Option (Text × Text) :=
  match t with
  | c :: rest =>
      let scheme := c :: rest.takeWhile isSchemeChar
      match rest.dropWhile isSchemeChar with
      | ':' :: path =>
          match path.dropWhile isAddressChar with
          | '>' :: behind =>
              if c.isAlpha ∧ 2 ≤ scheme.length ∧ scheme.length ≤ 32 then
                some (scheme ++ ':' :: path.takeWhile isAddressChar, behind)
              else none
          | _ => none
      | _ => none
  | [] => none

def isMailboxChar (c : Char) : Bool :=
  c.isAlphanum || ".!#$%&'*+/=?^_`\x7b|\x7d~-".toList.contains c

/-- Whether a text is a part of a domain name: letters and digits, with hyphens inside. -/
def isDomainLabel (t : Text) : Bool :=
  match t with
  | [] => false
  | c :: _ =>
      t.length ≤ 63 && t.all (fun d => d.isAlphanum || d == '-') && c != '-'
        && t.getLast? != some '-'

/-- A mail address behind an angle bracket, and the text behind its closing bracket. -/
def mailLink? (t : Text) : Option (Text × Text) :=
  let mailbox := t.takeWhile isMailboxChar
  match t.dropWhile isMailboxChar with
  | '@' :: rest =>
      let domain := rest.takeWhile (· != '>')
      match rest.dropWhile (· != '>') with
      | _ :: behind =>
          if !mailbox.isEmpty && (List.splitOn '.' domain).all isDomainLabel then
            some (mailbox ++ '@' :: domain, behind)
          else none
      | [] => none
  | _ => none

/-- A link in angle brackets behind its opening bracket. -/
def angleLink? (t : Text) : Option (Text × Text) :=
  match addressLink? t with
  | some link => some link
  | none => mailLink? t

end Literate.Markdown
