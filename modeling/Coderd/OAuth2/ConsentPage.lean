import Coderd.Foundation.Replace
import Coderd.Foundation.Trim
import Coderd.Foundation.Unicode

namespace Coderd.OAuth2.ConsentPage

open Coderd.Foundation

/-! ## The template -/

structure ConsentTemplate where
  appName : String
  appIcon : String
  callbackUrl : String
  scope : String
  nonce : String
  cancelUrl : String

inductive Placeholder where
  | appName
  | appIconTag
  | callbackUrl
  | scopeOrDefault
  | nonce
  | cancelUrl
  deriving DecidableEq

def Placeholder.name : Placeholder → String
  | appName => "APP_NAME"
  | appIconTag => "APP_ICON_TAG"
  | callbackUrl => "CALLBACK_URL"
  | scopeOrDefault => "SCOPE_OR_DEFAULT"
  | nonce => "NONCE"
  | cancelUrl => "CANCEL_URL"

/-- The name in two pairs of braces. -/
def Placeholder.text (p : Placeholder) : List Char := '{' :: '{' :: p.name.toList ++ ['}', '}']

/-- The lines before the first placeholder, the last one in part. -/
def consentHead : List String :=
  ["<!DOCTYPE html>\n",
    "<html lang=\"en\">\n",
    "<head>\n",
    "<meta charset=\"utf-8\">\n",
    "<title>Authorize "]

/-- Each placeholder, with the text after it; long lines are cut. -/
def consentRest : List (Placeholder × List String) :=
  [(.appName,
      ["</title>\n",
        "<style>\n",
        "  body \x7b font-family: system-ui, sans-serif; max-width: 28rem; margin: 3rem auto; ",
        "padding: 1rem; \x7d\n",
        "  .app \x7b display: flex; align-items: center; gap: 0.75rem; margin-bottom: 1rem; \x7d\n",
        "  .app img \x7b width: 48px; height: 48px; border-radius: 6px; \x7d\n",
        "  .scopes \x7b margin: 1rem 0; padding: 0.75rem 1rem; background: #f4f4f5; ",
        "border-radius: 6px; \x7d\n",
        "  button, .cancel \x7b padding: 0.5rem 1.25rem; border-radius: 6px; font-size: 1rem; ",
        "cursor: pointer; \x7d\n",
        "  button \x7b background: #0369a1; color: #fff; border: 0; \x7d\n",
        "  .cancel \x7b background: transparent; border: 1px solid #a1a1aa; color: #18181b; ",
        "text-decoration: none; \x7d\n",
        "  .actions \x7b display: flex; gap: 0.75rem; \x7d\n",
        "</style>\n",
        "</head>\n",
        "<body>\n",
        "<h1>Authorize "]),
    (.appName,
      ["</h1>\n",
        "<div class=\"app\">\n",
        "  "]),
    (.appIconTag,
      ["\n",
        "  <div>\n",
        "    <strong>"]),
    (.appName,
      ["</strong><br>\n",
        "    <small>redirects to "]),
    (.callbackUrl,
      ["</small>\n",
        "  </div>\n",
        "</div>\n",
        "<p>This application is requesting access to your Coder account.</p>\n",
        "<div class=\"scopes\"><strong>Scopes:</strong> "]),
    (.scopeOrDefault,
      ["</div>\n",
        "<form method=\"POST\" action=\"/oauth2/authorize/consent\">\n",
        "  <input type=\"hidden\" name=\"nonce\" value=\""]),
    (.nonce,
      ["\">\n",
        "  <div class=\"actions\">\n",
        "    <button type=\"submit\" name=\"decision\" value=\"approve\">Approve</button>\n",
        "    <a class=\"cancel\" href=\""]),
    (.cancelUrl,
      ["\">Deny</a>\n",
        "  </div>\n",
        "</form>\n",
        "</body>\n",
        "</html>\n"])]

def headText : List Char := consentHead.flatMap String.toList

def consentPieces : List (Placeholder × List Char) :=
  consentRest.map fun piece => (piece.1, piece.2.flatMap String.toList)

def consentTemplate : List Char := headText ++ fillHoles Placeholder.text consentPieces

/-! ## Rendering -/

def escapeChar : Char → List Char
  | '<' => "&lt;".toList
  | '>' => "&gt;".toList
  | '&' => "&amp;".toList
  | '"' => "&quot;".toList
  | '\'' => "&#39;".toList
  | c => [c]

def htmlEscape (input : String) : List Char := input.toList.flatMap escapeChar

def iconTag (t : ConsentTemplate) : List Char :=
  if t.appIcon.isEmpty then []
  else "<img src=\"".toList ++ htmlEscape t.appIcon ++ "\" alt=\"\">".toList

def scopeOrDefault (t : ConsentTemplate) : List Char :=
  if (trimBy isWhiteSpace t.scope.toList).isEmpty then "(default)".toList else htmlEscape t.scope

def renderConsentPage (t : ConsentTemplate) : String :=
  let page := consentTemplate
  let page := replaceAll Placeholder.appName.text (htmlEscape t.appName) page
  let page := replaceAll Placeholder.appIconTag.text (iconTag t) page
  let page := replaceAll Placeholder.callbackUrl.text (htmlEscape t.callbackUrl) page
  let page := replaceAll Placeholder.scopeOrDefault.text (scopeOrDefault t) page
  let page := replaceAll Placeholder.nonce.text (htmlEscape t.nonce) page
  let page := replaceAll Placeholder.cancelUrl.text (htmlEscape t.cancelUrl) page
  String.ofList page

/-! ## Each field in its own place -/

def ConsentTemplate.value (t : ConsentTemplate) : Placeholder → List Char
  | .appName => htmlEscape t.appName
  | .appIconTag => iconTag t
  | .callbackUrl => htmlEscape t.callbackUrl
  | .scopeOrDefault => scopeOrDefault t
  | .nonce => htmlEscape t.nonce
  | .cancelUrl => htmlEscape t.cancelUrl

/-- The fixed text of the template, with the value of the field at every placeholder. -/
def consentPage (t : ConsentTemplate) : String :=
  String.ofList (headText ++ fillHoles t.value consentPieces)

/-- The placeholders that are replaced after one, in their order. -/
def Placeholder.later : Placeholder → List Placeholder
  | appName => [appIconTag, callbackUrl, scopeOrDefault, nonce, cancelUrl]
  | appIconTag => [callbackUrl, scopeOrDefault, nonce, cancelUrl]
  | callbackUrl => [scopeOrDefault, nonce, cancelUrl]
  | scopeOrDefault => [nonce, cancelUrl]
  | nonce => [cancelUrl]
  | cancelUrl => []

def ConsentTemplate.replaced (t : ConsentTemplate) (ps : List Placeholder) (l : List Char) :
    List Char :=
  ps.foldl (fun l p => replaceAll p.text (t.value p) l) l

/-- No value is changed by the replacements that come after its own. -/
def Inert (t : ConsentTemplate) : Prop :=
  ∀ p : Placeholder, t.replaced p.later (t.value p) = t.value p

/-! ## Placeholders -/

def isPlaceholderChar (c : Char) : Bool := c = '{' || c = '}' || c = '_' || c.isUpper

theorem isPlaceholderChar_of_mem {p : Placeholder} : ∀ c ∈ p.text, isPlaceholderChar c = true := by
  cases p <;> exact List.all_eq_true.mp (by decide)

theorem notMem_text {c : Char} (h : isPlaceholderChar c = false) (p : Placeholder) :
    c ∉ p.text := fun hc => by
  rw [isPlaceholderChar_of_mem c hc] at h
  cases h

theorem text_ne_nil (p : Placeholder) : p.text ≠ [] := List.cons_ne_nil _ _

theorem text_not_occurs {p q : Placeholder} (h : p ≠ q) : ¬ p.text <:+: q.text := by
  revert h
  cases p <;> cases q <;> decide

/-! ## The fixed text -/

def hasBraces : List Char → Bool
  | '{' :: '{' :: _ => true
  | _ :: cs => hasBraces cs
  | [] => false

/-- What ends the field before a text. -/
def closes : Placeholder → List Char → Bool
  | .appName, '<' :: '/' :: _ => true
  | .appIconTag, _ => true
  | .callbackUrl, '<' :: _ => true
  | .scopeOrDefault, '<' :: _ => true
  | .nonce, '"' :: _ => true
  | .cancelUrl, '"' :: _ => true
  | _, _ => false

/-- No placeholder is in the text or reaches over its ends. -/
def plain (cs : List Char) : Bool :=
  cs.head?.any (!isPlaceholderChar ·) && cs.getLast?.any (!isPlaceholderChar ·) && !hasBraces cs

theorem hasBraces_cons {cs : List Char} (c : Char) (h : hasBraces cs = true) :
    hasBraces (c :: cs) = true := by
  unfold hasBraces
  split
  · rfl
  · rename_i heq
    cases heq
    exact h
  · rename_i heq
    cases heq

theorem hasBraces_of_occurs {cs rest : List Char} (h : '{' :: '{' :: rest <:+: cs) :
    hasBraces cs = true := by
  obtain ⟨u, v, rfl⟩ := h
  induction u with
  | nil => rfl
  | cons c u ih => exact hasBraces_cons c ih

theorem sealed_of_plain {cs : List Char} (h : plain cs = true) (p : Placeholder) :
    Sealed p.text cs := by
  simp only [plain, Bool.and_eq_true, Option.any_eq_true, Bool.not_eq_true'] at h
  obtain ⟨⟨⟨first, hfirst, hfirstChar⟩, last, hlast, hlastChar⟩, hbraces⟩ := h
  refine ⟨⟨first, hfirst, notMem_text hfirstChar p⟩, ⟨last, hlast, notMem_text hlastChar p⟩,
    fun hocc => ?_⟩
  rw [hasBraces_of_occurs hocc] at hbraces
  cases hbraces

/-- The characters of the literals are read off them. -/
theorem flatMap_toList_of_literals {texts : List String} {css : List (List Char)}
    (h : List.Forall₂ (fun text cs => text = String.ofList cs) texts css) :
    texts.flatMap String.toList = css.flatten := by
  induction h with
  | nil => rfl
  | cons htext _ ih => rw [List.flatMap_cons, ih, htext, String.toList_ofList, List.flatten_cons]

theorem plain_of_literals {texts : List String} {css : List (List Char)} {p : Placeholder}
    (h : List.Forall₂ (fun text cs => text = String.ofList cs) texts css)
    (hcss : (plain css.flatten && closes p css.flatten) = true) :
    plain (texts.flatMap String.toList) = true ∧ closes p (texts.flatMap String.toList) = true := by
  rw [flatMap_toList_of_literals h]
  exact Bool.and_eq_true_iff.mp hcss

theorem plain_pieces : ∀ piece ∈ consentPieces,
    plain piece.2 = true ∧ closes piece.1 piece.2 = true := by
  refine List.forall_mem_map.mpr ?_
  simp only [consentRest, List.forall_mem_cons, List.not_mem_nil, false_imp_iff, implies_true,
    and_true]
  refine ⟨?_, ?_, ?_, ?_, ?_, ?_, ?_, ?_⟩
  all_goals
    apply plain_of_literals
    · repeat' constructor
    · decide +kernel

theorem plain_head : plain headText = true := by decide +kernel

/-! ## The page, hole by hole -/

section Page

variable {t : ConsentTemplate}

theorem replaced_cons (p : Placeholder) (ps : List Placeholder) (l : List Char) :
    t.replaced (p :: ps) l = t.replaced ps (replaceAll p.text (t.value p) l) := rfl

theorem replaced_append (ps qs : List Placeholder) (l : List Char) :
    t.replaced (ps ++ qs) l = t.replaced qs (t.replaced ps l) :=
  List.foldl_append

/-- A replacement in the page is one in each of its fields. -/
theorem replaced_page (ps : List Placeholder) (content : Placeholder → List Char) :
    t.replaced ps (headText ++ fillHoles content consentPieces) =
      headText ++ fillHoles (fun p => t.replaced ps (content p)) consentPieces := by
  induction ps generalizing content with
  | nil => rfl
  | cons p ps ih =>
    have hhead := sealed_of_plain plain_head p
    obtain ⟨last, hgetLast, hlast⟩ := hhead.last
    have hone : replaceAll p.text (t.value p)
        (headText ++ fillHoles content consentPieces) = headText ++
          fillHoles (fun q => replaceAll p.text (t.value p) (content q)) consentPieces := by
      rw [replaceAll_append_of_getLast? (text_ne_nil p) hlast hgetLast,
        replaceAll_of_free hhead.free, replaceAll_fillHoles (text_ne_nil p) content
          fun piece hpiece => sealed_of_plain (plain_pieces piece hpiece).1 p]
    rw [replaced_cons, hone, ih]
    rfl

theorem replaced_text_of_notMem {p : Placeholder} {ps : List Placeholder} (h : p ∉ ps) :
    t.replaced ps p.text = p.text := by
  induction ps with
  | nil => rfl
  | cons q ps ih =>
    have hq : q ≠ p := fun heq => h (heq ▸ List.mem_cons_self)
    rw [replaced_cons, replaceAll_of_free (text_not_occurs hq)]
    exact ih fun hmem => h (List.mem_cons_of_mem q hmem)

/-- The order in which the placeholders are replaced. -/
def placeholders : List Placeholder :=
  [.appName, .appIconTag, .callbackUrl, .scopeOrDefault, .nonce, .cancelUrl]

theorem placeholders_split (p : Placeholder) :
    ∃ before, placeholders = before ++ p :: p.later ∧ p ∉ before := by
  cases p
  · exact ⟨[], rfl, by decide⟩
  · exact ⟨[.appName], rfl, by decide⟩
  · exact ⟨[.appName, .appIconTag], rfl, by decide⟩
  · exact ⟨[.appName, .appIconTag, .callbackUrl], rfl, by decide⟩
  · exact ⟨[.appName, .appIconTag, .callbackUrl, .scopeOrDefault], rfl, by decide⟩
  · exact ⟨[.appName, .appIconTag, .callbackUrl, .scopeOrDefault, .nonce], rfl, by decide⟩

theorem replaced_placeholder (p : Placeholder) :
    t.replaced placeholders p.text = t.replaced p.later (t.value p) := by
  obtain ⟨before, hsplit, hbefore⟩ := placeholders_split p
  rw [hsplit, replaced_append, replaced_text_of_notMem hbefore, replaced_cons,
    replaceAll_pattern (text_ne_nil p)]

theorem renderConsentPage_eq (t : ConsentTemplate) : renderConsentPage t = String.ofList
    (headText ++ fillHoles (fun p => t.replaced p.later (t.value p)) consentPieces) := by
  have hfields : (fun p => t.replaced placeholders p.text) =
      fun p : Placeholder => t.replaced p.later (t.value p) := by
    funext p
    exact replaced_placeholder p
  rw [← hfields, ← replaced_page, ← consentTemplate, renderConsentPage]
  simp only [placeholders, replaced_cons, ConsentTemplate.value]
  rw [ConsentTemplate.replaced, List.foldl_nil]

end Page

/-! ## Where the fields end -/

section Ends

variable {t : ConsentTemplate} {c : Char} {cs : List Char}

theorem notMem_htmlEscape (hc : c = '<' ∨ c = '"') (input : String) : c ∉ htmlEscape input := by
  intro hmem
  obtain ⟨d, -, hd⟩ := List.mem_flatMap.mp hmem
  unfold escapeChar at hd
  split at hd
  case h_6 hlt _ _ hquote _ =>
    rw [List.mem_singleton] at hd
    obtain rfl | rfl := hc
    · exact hlt hd.symm
    · exact hquote hd.symm
  all_goals
    obtain rfl | rfl := hc
    · revert hd
      decide
    · revert hd
      decide

theorem mem_replaced {ps : List Placeholder} (h : c ∈ t.replaced ps cs) :
    c ∈ cs ∨ ∃ p ∈ ps, c ∈ t.value p := by
  induction ps generalizing cs with
  | nil => exact .inl h
  | cons p ps ih =>
    obtain hmem | ⟨q, hq, hmem⟩ := ih h
    · exact (mem_replaceAll (text_ne_nil p) hmem).elim
        (fun hvalue => .inr ⟨p, List.mem_cons_self, hvalue⟩) .inl
    · exact .inr ⟨q, List.mem_cons_of_mem p hq, hmem⟩

theorem notMem_value (hc : c = '<' ∨ c = '"') {p : Placeholder} (hp : p ≠ .appIconTag) :
    c ∉ t.value p := by
  cases p with
  | appName => exact notMem_htmlEscape hc t.appName
  | appIconTag => exact absurd rfl hp
  | callbackUrl => exact notMem_htmlEscape hc t.callbackUrl
  | scopeOrDefault =>
    show c ∉ scopeOrDefault t
    rw [scopeOrDefault]
    split
    · obtain rfl | rfl := hc <;> decide
    · exact notMem_htmlEscape hc t.scope
  | nonce => exact notMem_htmlEscape hc t.nonce
  | cancelUrl => exact notMem_htmlEscape hc t.cancelUrl

theorem notMem_replaced (hc : c = '<' ∨ c = '"') {ps : List Placeholder}
    (hps : .appIconTag ∉ ps) (hcs : c ∉ cs) : c ∉ t.replaced ps cs := by
  intro h
  obtain h | ⟨p, hp, h⟩ := mem_replaced h
  · exact hcs h
  · exact notMem_value hc (fun heq => hps (heq ▸ hp)) h

theorem appIconTag_notMem_later {p : Placeholder} (h : p ≠ .appName) : .appIconTag ∉ p.later := by
  revert h
  cases p <;> decide

/-- A field whose value has no tag ends where the text after it begins. -/
theorem endsAt_of_close {p : Placeholder} {text : List Char} (hname : p ≠ .appName)
    (hicon : p ≠ .appIconTag) (hc : c = '<' ∨ c = '"') (htext : text.head? = some c) :
    EndsAt text (t.replaced p.later (t.value p)) (t.value p) :=
  endsAt_of_head? (notMem_replaced hc (appIconTag_notMem_later hname) (notMem_value hc hicon))
    (notMem_value hc hicon) htext

/-! ### The icon -/

theorem replaced_iconTag {ps : List Placeholder} {icon : List Char} :
    t.replaced ps ("<img src=\"".toList ++ icon ++ "\" alt=\"\">".toList) =
      "<img src=\"".toList ++ t.replaced ps icon ++ "\" alt=\"\">".toList := by
  induction ps generalizing icon with
  | nil => rfl
  | cons p ps ih =>
    have hstart : Sealed p.text "<img src=\"".toList := sealed_of_plain (by decide) p
    have hend : Sealed p.text "\" alt=\"\">".toList := sealed_of_plain (by decide) p
    obtain ⟨last, hgetLast, hlast⟩ := hstart.last
    obtain ⟨first, hhead, hfirst⟩ := hend.head
    rw [replaced_cons, replaceAll_append_of_head? (text_ne_nil p) hfirst hhead,
      replaceAll_append_of_getLast? (text_ne_nil p) hlast hgetLast,
      replaceAll_of_free hstart.free, replaceAll_of_free hend.free, ih, replaced_cons]

theorem replaced_nil (ps : List Placeholder) : t.replaced ps [] = [] := by
  induction ps with
  | nil => rfl
  | cons p ps ih => rw [replaced_cons, replaceAll_nil, ih]

theorem endsAt_icon (text : List Char) :
    EndsAt text (t.replaced Placeholder.appIconTag.later (t.value .appIconTag))
      (t.value .appIconTag) := by
  intro rest rest' h
  have hvalue : t.value .appIconTag = iconTag t := rfl
  rw [hvalue] at h ⊢
  unfold iconTag at h ⊢
  split
  · rw [replaced_nil]
  · rename_i hicon
    rw [if_neg hicon] at h
    have hquote : '"' ∉ htmlEscape t.appIcon := notMem_htmlEscape (.inr rfl) t.appIcon
    rw [replaced_iconTag] at h ⊢
    simp only [List.append_assoc, List.append_cancel_left_eq] at h
    have hreplaced : '"' ∉ t.replaced Placeholder.appIconTag.later (htmlEscape t.appIcon) :=
      notMem_replaced (.inr rfl) (by decide) hquote
    have hends := endsAt_of_head? (l := "\" alt=\"\">".toList) hreplaced hquote (by decide)
      (text ++ rest) (text ++ rest')
    simp only [List.append_assoc] at hends
    rw [hends h]

/-! ### The name -/

/-- What comes first of the tags in a text is an icon. -/
def OpensIcon (cs : List Char) : Prop := '<' ∉ cs ∨ ∃ u v, '<' ∉ u ∧ cs = u ++ '<' :: 'i' :: v

theorem opensIcon_replaceAll_icon (h : '<' ∉ cs) :
    OpensIcon (replaceAll Placeholder.appIconTag.text (t.value .appIconTag) cs) := by
  have hvalue : t.value .appIconTag = [] ∨ ∃ rest, t.value .appIconTag = '<' :: 'i' :: rest := by
    show iconTag t = [] ∨ ∃ rest, iconTag t = '<' :: 'i' :: rest
    rw [iconTag]
    split
    · exact .inl rfl
    · exact .inr ⟨_, rfl⟩
  induction cs using replaceAll_induction (text_ne_nil .appIconTag) with
  | nil => exact .inl h
  | occurrence cs ih =>
    rw [replaceAll_append_pattern (text_ne_nil .appIconTag)]
    obtain hempty | ⟨rest, htag⟩ := hvalue
    · rw [hempty] at ih ⊢
      exact ih fun hmem => h (List.mem_append_right _ hmem)
    · rw [htag]
      exact .inr ⟨[], _, List.not_mem_nil, rfl⟩
  | letter c cs hinit ih =>
    obtain ⟨hc, hcs⟩ := List.ne_and_not_mem_of_not_mem_cons h
    rw [replaceAll_cons_of_not_start hinit]
    obtain hfree | ⟨u, v, hu, heq⟩ := ih hcs
    · exact .inl (List.not_mem_cons_of_ne_of_not_mem hc hfree)
    · exact .inr ⟨c :: u, v, List.not_mem_cons_of_ne_of_not_mem hc hu, by rw [heq]; rfl⟩

theorem OpensIcon.replaceAll (h : OpensIcon cs) {p : Placeholder} {value : List Char}
    (hvalue : '<' ∉ value) : OpensIcon (replaceAll p.text value cs) := by
  have hfree : ∀ u, '<' ∉ u → '<' ∉ Foundation.replaceAll p.text value u := fun u hu hmem =>
    (mem_replaceAll (text_ne_nil p) hmem).elim hvalue hu
  obtain hcs | ⟨u, v, hu, rfl⟩ := h
  · exact .inl (hfree cs hcs)
  · -- Neither the bracket nor the letter is part of a placeholder.
    have hbracket : Foundation.replaceAll p.text value (u ++ '<' :: 'i' :: v) =
        Foundation.replaceAll p.text value u ++
          '<' :: Foundation.replaceAll p.text value ('i' :: v) :=
      replaceAll_append_barrier (text_ne_nil p) (notMem_text (by decide) p) u ('i' :: v)
    have hletter : Foundation.replaceAll p.text value ('i' :: v) =
        'i' :: Foundation.replaceAll p.text value v :=
      replaceAll_append_barrier (text_ne_nil p) (notMem_text (by decide) p) [] v
    rw [hletter] at hbracket
    exact .inr ⟨_, _, hfree u hu, hbracket⟩

theorem opensIcon_replaced {ps : List Placeholder} (hps : .appIconTag ∉ ps) (h : OpensIcon cs) :
    OpensIcon (t.replaced ps cs) := by
  induction ps generalizing cs with
  | nil => exact h
  | cons p ps ih =>
    obtain ⟨hp, hps'⟩ := List.ne_and_not_mem_of_not_mem_cons hps
    exact ih hps' (h.replaceAll (notMem_value (.inl rfl) hp.symm))

theorem endsAt_name {text : List Char} (htext : ∃ rest, text = '<' :: '/' :: rest) :
    EndsAt text (t.replaced Placeholder.appName.later (t.value .appName)) (t.value .appName) := by
  have hvalue : '<' ∉ t.value .appName := notMem_value (.inl rfl) (by decide)
  have hlater : Placeholder.appName.later = .appIconTag :: Placeholder.appIconTag.later := rfl
  have hopens : OpensIcon (t.replaced Placeholder.appName.later (t.value .appName)) := by
    rw [hlater, replaced_cons]
    exact opensIcon_replaced (by decide) (opensIcon_replaceAll_icon hvalue)
  obtain ⟨tail, rfl⟩ := htext
  obtain hfree | ⟨u, v, hu, heq⟩ := hopens
  · exact endsAt_of_head? hfree hvalue rfl
  · -- The first tag would be that of an icon, but it is the end of an element.
    intro rest rest' h
    rw [heq] at h
    have hends := endsAt_of_head? (l := ['<']) hu hvalue rfl
      ('i' :: v ++ ('<' :: '/' :: tail) ++ rest) ('/' :: tail ++ rest')
    have hsame : u = t.value .appName := hends (by simpa using h)
    rw [hsame] at h
    simp at h

theorem endsAt_of_closes {p : Placeholder} {text : List Char} (h : closes p text = true) :
    EndsAt text (t.replaced p.later (t.value p)) (t.value p) := by
  unfold closes at h
  split at h
  · exact endsAt_name ⟨_, rfl⟩
  · exact endsAt_icon _
  · exact endsAt_of_close (by decide) (by decide) (.inl rfl) rfl
  · exact endsAt_of_close (by decide) (by decide) (.inl rfl) rfl
  · exact endsAt_of_close (by decide) (by decide) (.inr rfl) rfl
  · exact endsAt_of_close (by decide) (by decide) (.inr rfl) rfl
  · cases h

end Ends

/-! ## The whole page -/

theorem exists_piece (p : Placeholder) : ∃ piece ∈ consentPieces, piece.1 = p := by
  have hnames : consentPieces.map Prod.fst = consentRest.map Prod.fst := by
    rw [consentPieces, List.map_map]
    rfl
  have hmem : p ∈ consentRest.map Prod.fst := by
    simp only [consentRest, List.map_cons, List.map_nil]
    cases p <;> decide
  rw [← hnames] at hmem
  exact List.mem_map.mp hmem

/-- The holes are filled alike only where every value is inert. -/
theorem fillHoles_eq_iff (t : ConsentTemplate) :
    fillHoles (fun p => t.replaced p.later (t.value p)) consentPieces =
      fillHoles t.value consentPieces ↔ Inert t := by
  constructor
  · intro h p
    obtain ⟨piece, hpiece, rfl⟩ := exists_piece p
    exact eq_of_fillHoles_eq (fun other hother => endsAt_of_closes (plain_pieces other hother).2) h
      piece hpiece
  · intro h
    have hvalues : (fun p : Placeholder => t.replaced p.later (t.value p)) = t.value := by
      funext p
      exact h p
    rw [hvalues]

theorem page_eq_iff (t : ConsentTemplate) :
    (renderConsentPage t).toList = (consentPage t).toList ↔ Inert t := by
  rw [renderConsentPage_eq, consentPage, String.toList_ofList, String.toList_ofList,
    List.append_cancel_left_eq, fillHoles_eq_iff]

/-- Values without placeholders are inert. -/
theorem inert_of_free {t : ConsentTemplate}
    (h : ∀ p q : Placeholder, q ∈ p.later → ¬ q.text <:+: t.value p) : Inert t := by
  intro p
  have hkept : ∀ ps : List Placeholder, (∀ q ∈ ps, ¬ q.text <:+: t.value p) →
      t.replaced ps (t.value p) = t.value p := by
    intro ps hps
    induction ps with
    | nil => rfl
    | cons q ps ih =>
      obtain ⟨hq, hrest⟩ := List.forall_mem_cons.mp hps
      rw [replaced_cons, replaceAll_of_free hq, ih hrest]
  exact hkept p.later fun q hq => h p q hq

/-- The page is the template with each field in its own place if and only if no value is changed by
the replacements after its own. -/
theorem renderConsentPage_eq_consentPage_iff (t : ConsentTemplate) :
    renderConsentPage t = consentPage t ↔ Inert t := by
  rw [← page_eq_iff, String.toList_inj]

/-- An application that is named after the placeholder of the nonce. -/
def nonceName : ConsentTemplate where
  appName := "\x7b\x7bNONCE\x7d\x7d"
  appIcon := ""
  callbackUrl := "https://app.example/cb"
  scope := ""
  nonce := "7c9e"
  cancelUrl := "https://app.example/cb?error=access_denied"

theorem renderConsentPage_nonceName :
    nonceName.replaced Placeholder.appName.later (nonceName.value .appName) = "7c9e".toList ∧
      renderConsentPage nonceName ≠ consentPage nonceName := by
  have hname : nonceName.replaced Placeholder.appName.later (nonceName.value .appName) =
      "7c9e".toList := by
    decide
  refine ⟨hname, fun h => ?_⟩
  have hinert := (page_eq_iff nonceName).mp (congrArg String.toList h) .appName
  rw [hname] at hinert
  revert hinert
  decide

end Coderd.OAuth2.ConsentPage
