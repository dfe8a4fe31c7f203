import Oid4vc.Base.Escape
import Oid4vc.Server.Response

/-!
The pages that the authorization endpoint shows: literal text, and values of the request that
are shown escaped. However a value is chosen, a reader of the page stays where the value stands:
in the text, or in a quoted attribute.
-/

namespace Oid4vc.Pages

open Oid4vc.Escape Oid4vc.Server

/-- One character of a text replaced. -/
def replace (c : Char) (entity s : String) : String :=
  String.ofList (replaceAll c entity.toList s.toList)

def htmlEscape (value : String) : String :=
  replace '\x27' "&#39;" (replace '\x22' "&quot;" (replace '>' "&gt;" (replace '<' "&lt;"
    (replace '&' "&amp;" value))))

/-- The special characters with their entities. -/
def entities : List (Char × List Char) :=
  [('&', ['&', 'a', 'm', 'p', ';']), ('<', ['&', 'l', 't', ';']), ('>', ['&', 'g', 't', ';']),
    ('\x22', ['&', 'q', 'u', 'o', 't', ';']), ('\x27', ['&', '#', '3', '9', ';'])]

/-- What is on a page: literal text, or a value that is shown escaped. -/
inductive Piece
  | literal (s : String)
  | shown (value : String)

def Piece.html : Piece → String
  | .literal s => s
  | .shown value => htmlEscape value

def chars (page : List Piece) : List Char := page.flatMap fun piece => piece.html.toList

def errorTemplate (code description : String) : List Piece :=
  [.literal "<!doctype html><html lang=\"en\"><head><meta charset=\"utf-8\">",
    .literal "<title>Authorization error</title></head>",
    .literal "<body><h1>Authorization error</h1><p><code>",
    .shown code, .literal "</code>: ", .shown description, .literal "</p></body></html>"]

/-- The entry of one credential configuration. -/
def credentialItem (id : String) : List Piece := [.literal "<li>", .shown id, .literal "</li>"]

def consentTemplate (client requestUri : String) (credentialConfigurationIds : List String) :
    List Piece :=
  [.literal "<!doctype html>\n<html lang=\"en\"><head><meta charset=\"utf-8\">",
    .literal "<title>Authorize credential issuance</title></head>\n<body>\n",
    .literal "<h1>Authorize credential issuance</h1>\n<p><strong>",
    .shown client, .literal "</strong> is asking for:</p>\n<ul>"] ++
  credentialConfigurationIds.flatMap credentialItem ++
  [.literal "</ul>\n<form method=\"post\" action=\"/authorize/decision\">\n",
    .literal "<input type=\"hidden\" name=\"request_uri\" value=\"",
    .shown requestUri,
    .literal "\">\n<input type=\"hidden\" name=\"client_id\" value=\"",
    .shown client,
    .literal "\">\n<button type=\"submit\" id=\"approve\" name=\"decision\" value=\"approve\">",
    .literal "Approve</button>\n<button type=\"submit\" id=\"deny\" name=\"decision\" value=\"deny\">",
    .literal "Deny</button>\n</form>\n</body></html>"]

/-- The page of a response, if it has one. -/
def template : Body → Option (List Piece)
  | .errorPage code description => some (errorTemplate code description)
  | .consentPage client requestUri credentials => some (consentTemplate client requestUri credentials)
  | _ => none

/-- The same response, showing nothing. -/
def blank : Body → Body
  | .errorPage _ _ => .errorPage "" ""
  | .consentPage _ _ credentials => .consentPage "" "" (credentials.map fun _ => "")
  | body => body

/-! ### Escaping -/

/-- All special characters replaced in one pass. -/
def escapeOnce (s : String) : String := String.ofList (escape entities s.toList)

def unescapeEntities (s : String) : String := String.ofList (unescape entities s.toList)

lemma ordered_entities : entities.Pairwise fun e e' => e'.1 ∉ e.2 := by decide

lemma marked_entities : Marked '&' entities where
  special := rfl
  shape := by
    intro e he
    have hplain : (entities.all fun e => e.2.head? == some '&' &&
        e.2.tail.all fun c => (entities.lookup c).isNone) = true := by decide
    have hentity := List.all_eq_true.mp hplain e he
    rw [Bool.and_eq_true, beq_iff_eq] at hentity
    obtain ⟨tail, htail⟩ := List.head?_eq_some_iff.mp hentity.1
    refine ⟨tail, htail, fun c hc => ?_⟩
    rw [htail, List.tail_cons] at hentity
    exact Option.isNone_iff_eq_none.mp (List.all_eq_true.mp hentity.2 c hc)
  separate := by decide

lemma toList_htmlEscape (s : String) : (htmlEscape s).toList = escape entities s.toList := by
  rw [← replaceEach_eq_escape ordered_entities]
  simp only [htmlEscape, replace, String.toList_ofList, String.reduceToList, replaceEach, entities,
    List.foldl_cons, List.foldl_nil]

lemma not_mem_htmlEscape {c : Char} (hspecial : entities.lookup c ≠ none) (hc : c ≠ '&')
    (s : String) : c ∉ (htmlEscape s).toList := by
  rw [toList_htmlEscape]
  exact fun hmem => hc (eq_marker_of_mem_escape marked_entities hmem hspecial)

/-! ### Reading a page -/

/-- Where a reader of a page is: in the text, in a tag, or in an attribute between such quotes. -/
inductive Position
  | text
  | tag
  | quoted (quote : Char)
  deriving DecidableEq

def Position.next : Position → Char → Position
  | .text, c => if c = '<' then .tag else .text
  | .tag, c => if c = '>' then .text else if c = '\x22' ∨ c = '\x27' then .quoted c else .tag
  | .quoted quote, c => if c = quote then .tag else .quoted quote

/-- Where the reader is after these characters. -/
def read (p : Position) (cs : List Char) : Position := cs.foldl Position.next p

/-- Values may stand in the text, and in a quoted attribute. -/
def Position.Content : Position → Prop
  | .text => True
  | .tag => False
  | .quoted quote => quote = '\x22' ∨ quote = '\x27'

/-- The characters that are markup: all but those that leave the reader in a content. -/
def markup : Position → List Char → List Char
  | _, [] => []
  | p, c :: cs => if p ≠ .tag ∧ p.next c = p then markup p cs else c :: markup (p.next c) cs

lemma read_append (p : Position) (cs ds : List Char) :
    read p (cs ++ ds) = read (read p cs) ds := List.foldl_append

lemma markup_append (p : Position) (cs ds : List Char) :
    markup p (cs ++ ds) = markup p cs ++ markup (read p cs) ds := by
  induction cs generalizing p with
  | nil => rfl
  | cons c cs ih =>
    rw [List.cons_append, markup, markup, read, List.foldl_cons, ← read]
    by_cases h : p ≠ .tag ∧ p.next c = p
    · rw [if_pos h, if_pos h, ih, h.2]
    · rw [if_neg h, if_neg h, ih, List.cons_append]

lemma next_of_content {p : Position} (hp : p.Content) {c : Char} (hlt : c ≠ '<')
    (hdouble : c ≠ '\x22') (hsingle : c ≠ '\x27') : p.next c = p := by
  cases p with
  | text => exact if_neg hlt
  | tag => exact hp.elim
  | quoted quote =>
    rcases hp with rfl | rfl
    · exact if_neg hdouble
    · exact if_neg hsingle

lemma read_of_forall {p : Position} {cs : List Char} (h : ∀ c ∈ cs, p.next c = p) :
    read p cs = p := by
  induction cs with
  | nil => rfl
  | cons c cs ih =>
    rw [read, List.foldl_cons, h c List.mem_cons_self, ← read]
    exact ih fun d hd => h d (List.mem_cons_of_mem c hd)

lemma markup_of_forall {p : Position} (hp : p ≠ .tag) {cs : List Char}
    (h : ∀ c ∈ cs, p.next c = p) : markup p cs = [] := by
  induction cs with
  | nil => rfl
  | cons c cs ih =>
    rw [markup, if_pos ⟨hp, h c List.mem_cons_self⟩]
    exact ih fun d hd => h d (List.mem_cons_of_mem c hd)

lemma next_htmlEscape {p : Position} (hp : p.Content) {s : String} {c : Char}
    (hc : c ∈ (htmlEscape s).toList) : p.next c = p := by
  apply next_of_content hp
  · rintro rfl
    exact not_mem_htmlEscape (by decide) (by decide) s hc
  · rintro rfl
    exact not_mem_htmlEscape (by decide) (by decide) s hc
  · rintro rfl
    exact not_mem_htmlEscape (by decide) (by decide) s hc

lemma ne_tag_of_content {p : Position} (hp : p.Content) : p ≠ .tag := by
  rintro rfl
  exact hp

/-! ### Pages -/

/-- Where the reader is after a page, whatever the values on it. -/
def after (p : Position) : List Piece → Position
  | [] => p
  | .literal s :: page => after (read p s.toList) page
  | .shown _ :: page => after p page

/-- Every value of the page stands in a content. -/
def Stands (p : Position) : List Piece → Prop
  | [] => True
  | .literal s :: page => Stands (read p s.toList) page
  | .shown _ :: page => p.Content ∧ Stands p page

/-- A page without its values. -/
def blankPage : List Piece → List Piece
  | [] => []
  | .literal s :: page => .literal s :: blankPage page
  | .shown _ :: page => .shown "" :: blankPage page

/-- A value of the page is read in one content from its first character to its last. -/
def Contained (page : List Piece) : Prop :=
  ∀ before value rest, page = before ++ .shown value :: rest →
    (read .text (chars before)).Content ∧
      ∀ cs, cs <+: (htmlEscape value).toList →
        read .text (chars before ++ cs) = read .text (chars before)

lemma chars_cons (piece : Piece) (page : List Piece) :
    chars (piece :: page) = piece.html.toList ++ chars page := List.flatMap_cons ..

lemma stands_append {p : Position} {page page' : List Piece} :
    Stands p (page ++ page') ↔ Stands p page ∧ Stands (after p page) page' := by
  induction page generalizing p with
  | nil => simp [Stands, after]
  | cons piece page ih =>
    cases piece with
    | literal s => exact ih
    | shown value => simp only [List.cons_append, Stands, after, ih, and_assoc]

lemma after_append {p : Position} {page page' : List Piece} :
    after p (page ++ page') = after (after p page) page' := by
  induction page generalizing p with
  | nil => rfl
  | cons piece page ih =>
    cases piece with
    | literal s => exact ih
    | shown value => exact ih

lemma read_chars {p : Position} {page : List Piece} (h : Stands p page) :
    read p (chars page) = after p page := by
  induction page generalizing p with
  | nil => rfl
  | cons piece page ih =>
    rw [chars_cons, read_append]
    cases piece with
    | literal s => exact ih h
    | shown value =>
      obtain ⟨hp, hpage⟩ := h
      have hstays : read p (Piece.shown value).html.toList = p :=
        read_of_forall fun c hc => next_htmlEscape hp hc
      rw [hstays]
      exact ih hpage

/-- **No value leaves its position.** -/
theorem contained_of_stands {page : List Piece} (h : Stands .text page) : Contained page := by
  rintro before value rest rfl
  obtain ⟨hbefore, hcontent, -⟩ := stands_append.mp h
  rw [read_chars hbefore]
  refine ⟨hcontent, fun cs hcs => ?_⟩
  rw [read_append, read_chars hbefore]
  exact read_of_forall fun c hc => next_htmlEscape hcontent (hcs.subset hc)

/-- **No value adds or removes markup.** -/
theorem markup_blankPage {p : Position} {page : List Piece} (h : Stands p page) :
    markup p (chars page) = markup p (chars (blankPage page)) := by
  induction page generalizing p with
  | nil => rfl
  | cons piece page ih =>
    rw [chars_cons, markup_append]
    cases piece with
    | literal s =>
      have hblank : blankPage (.literal s :: page) = .literal s :: blankPage page := rfl
      rw [hblank, chars_cons, markup_append]
      exact congrArg _ (ih h)
    | shown value =>
      obtain ⟨hp, hpage⟩ := h
      have hblank : chars (blankPage (.shown value :: page)) = chars (blankPage page) := rfl
      have hstays : read p (Piece.shown value).html.toList = p :=
        read_of_forall fun c hc => next_htmlEscape hp hc
      have hnone : markup p (Piece.shown value).html.toList = [] :=
        markup_of_forall (ne_tag_of_content hp) fun c hc => next_htmlEscape hp hc
      rw [hblank, hstays, hnone, List.nil_append, ih hpage]

lemma read_ofList {p q : Position} {cs : List Char} (h : read p cs = q) :
    read p (String.ofList cs).toList = q := by
  rw [String.toList_ofList, h]

lemma stands_items (ids : List String) :
    Stands .text (ids.flatMap credentialItem) ∧ after .text (ids.flatMap credentialItem) = .text := by
  induction ids with
  | nil => exact ⟨trivial, rfl⟩
  | cons id ids ih =>
    have hopen : read .text "<li>".toList = .text := read_ofList (by decide +kernel)
    have hclose : read .text "</li>".toList = .text := read_ofList (by decide +kernel)
    simp only [List.flatMap_cons, credentialItem, List.cons_append, List.nil_append, Stands, after,
      hopen, hclose]
    exact ⟨⟨trivial, ih.1⟩, ih.2⟩

lemma stands_errorTemplate (code description : String) :
    Stands .text (errorTemplate code description) := by
  have hhead : read .text "<!doctype html><html lang=\"en\"><head><meta charset=\"utf-8\">".toList =
      .text := read_ofList (by decide +kernel)
  have htitle : read .text "<title>Authorization error</title></head>".toList = .text :=
    read_ofList (by decide +kernel)
  have hbody : read .text "<body><h1>Authorization error</h1><p><code>".toList = .text :=
    read_ofList (by decide +kernel)
  have hcode : read .text "</code>: ".toList = .text := read_ofList (by decide +kernel)
  simp only [errorTemplate, Stands, hhead, htitle, hbody, hcode]
  exact ⟨trivial, trivial, trivial⟩

lemma stands_consentTemplate (client requestUri : String) (ids : List String) :
    Stands .text (consentTemplate client requestUri ids) := by
  obtain ⟨hitems, hafter⟩ := stands_items ids
  have hhead : read .text
      "<!doctype html>\n<html lang=\"en\"><head><meta charset=\"utf-8\">".toList = .text :=
    read_ofList (by decide +kernel)
  have htitle : read .text
      "<title>Authorize credential issuance</title></head>\n<body>\n".toList = .text :=
    read_ofList (by decide +kernel)
  have hbody : read .text "<h1>Authorize credential issuance</h1>\n<p><strong>".toList = .text :=
    read_ofList (by decide +kernel)
  have hasking : read .text "</strong> is asking for:</p>\n<ul>".toList = .text :=
    read_ofList (by decide +kernel)
  have hform : read .text
      "</ul>\n<form method=\"post\" action=\"/authorize/decision\">\n".toList = .text :=
    read_ofList (by decide +kernel)
  have hrequest : read .text "<input type=\"hidden\" name=\"request_uri\" value=\"".toList =
      .quoted '\x22' := read_ofList (by decide +kernel)
  have hclient : read (.quoted '\x22')
      "\">\n<input type=\"hidden\" name=\"client_id\" value=\"".toList = .quoted '\x22' :=
    read_ofList (by decide +kernel)
  rw [consentTemplate, stands_append, stands_append, after_append]
  simp only [Stands, after, hhead, htitle, hbody, hasking, hafter, hform, hrequest, hclient]
  exact ⟨⟨⟨trivial, trivial⟩, hitems⟩, Or.inl rfl, Or.inl rfl, trivial⟩

lemma stands_template {body : Body} {page : List Piece} (h : template body = some page) :
    Stands .text page := by
  unfold template at h
  split at h
  · cases h
    exact stands_errorTemplate _ _
  · cases h
    exact stands_consentTemplate _ _ _
  · cases h

lemma blankPage_append (page page' : List Piece) :
    blankPage (page ++ page') = blankPage page ++ blankPage page' := by
  induction page with
  | nil => rfl
  | cons piece page ih =>
    cases piece with
    | literal s => exact congrArg (Piece.literal s :: ·) ih
    | shown value => exact congrArg (Piece.shown "" :: ·) ih

lemma blankPage_items (ids : List String) :
    blankPage (ids.flatMap credentialItem) = (ids.map fun _ => "").flatMap credentialItem := by
  induction ids with
  | nil => rfl
  | cons id ids ih =>
    rw [List.flatMap_cons, blankPage_append, ih]
    rfl

lemma template_blank {body : Body} {page : List Piece} (h : template body = some page) :
    template (blank body) = some (blankPage page) := by
  unfold template at h
  split at h
  · cases h
    rfl
  · cases h
    rw [blank, template, consentTemplate, consentTemplate, blankPage_append, blankPage_append,
      blankPage_items]
    rfl
  · cases h

/-- **Escaping is one pass, injection-free and lossless**, and so no value leaves its position on
a page. -/
theorem htmlEscape_contained :
    (∀ s : String, htmlEscape s = escapeOnce s ∧
      (∀ c ∈ ['<', '>', '\x22', '\x27'], c ∉ (htmlEscape s).toList) ∧
      (∀ before rest, (htmlEscape s).toList = before ++ '&' :: rest →
        ∃ e ∈ entities, e.2 <+: '&' :: rest) ∧
      unescapeEntities (htmlEscape s) = s) ∧
    ∀ body page, template body = some page → Contained page ∧
      ∃ empty, template (blank body) = some empty ∧
        markup .text (chars page) = markup .text (chars empty) := by
  refine ⟨fun s => ⟨?_, ?_, ?_, ?_⟩, ?_⟩
  · rw [escapeOnce, ← toList_htmlEscape, String.ofList_toList]
  · intro c hc
    have hspecial : (['<', '>', '\x22', '\x27'].all fun c =>
        (entities.lookup c).isSome && c != '&') = true := by decide
    have hboth := List.all_eq_true.mp hspecial c hc
    rw [Bool.and_eq_true, bne_iff_ne] at hboth
    exact not_mem_htmlEscape (Option.isSome_iff_ne_none.mp hboth.1) hboth.2 s
  · intro before rest heq
    rw [toList_htmlEscape] at heq
    exact entity_of_marker marked_entities heq
  · rw [unescapeEntities, toList_htmlEscape, unescape_escape marked_entities, String.ofList_toList]
  · intro body page hpage
    have hstands := stands_template hpage
    exact ⟨contained_of_stands hstands, _, template_blank hpage, markup_blankPage hstands⟩

/-- A client that names itself as markup stays in the text and in the attribute. -/
theorem consent_contained : Contained (consentTemplate "\"><script>alert('&lt;')</script>"
    "urn:ietf:params:oauth:request_uri:6esc_11ACC5bwc014ltc14eY22c" ["pid", "<li>", "&amp;"]) :=
  (htmlEscape_contained.2 (.consentPage _ _ _) _ rfl).1

end Oid4vc.Pages
