import Dialogue.Proofs.Markup.CharacterData

/-!
# Texts in chunks

A text can be written chunk by chunk, each in its own way, with comments and processing instructions
between them. Neither the ways nor the places where one chunk ends and the next begins are seen in what is
read, and what is written outside the root is not seen at all.
-/

namespace Dialogue.Markup

/-- A piece of character data. No piece holds its own end. -/
inductive Chunk where
  | text (value : String)
  | cdata (content : String) (ends : ¬ "]]>".toList <:+: content.toList)
  | comment (body : String) (ends : ¬ "-->".toList <:+: body.toList)
  | instruction (body : String) (ends : ¬ "?>".toList <:+: '?' :: body.toList)

namespace Chunk

/-- The chunk as it is spelled. -/
def write : Chunk → List Char
  | text value => escapeText value.toList
  | cdata content _ => "<![CDATA[".toList ++ content.toList ++ "]]>".toList
  | comment body _ => "<!--".toList ++ body.toList ++ "-->".toList
  | instruction body _ => "<?".toList ++ body.toList ++ "?>".toList

/-- What the chunk adds to the text. -/
def value : Chunk → List Char
  | text value => value.toList
  | cdata content _ => content.toList
  | comment .. | instruction .. => []

theorem spells : (chunks : List Chunk) → Spells (chunks.flatMap write) (chunks.flatMap value)
  | [] => .nil
  | text value :: chunks => .escaped value.toList (spells chunks)
  | cdata _ ends :: chunks => .cdata ends (spells chunks)
  | comment _ ends :: chunks => .comment ends (spells chunks)
  | instruction _ ends :: chunks => .instruction ends (spells chunks)

end Chunk

/-- Character data around the root makes no difference. -/
theorem ReadsAs.parse_between {source before after text text' : List Char} {e : Element}
    (h : ReadsAs source e) (hbefore : Spells before text) (hsource : source.head? = some '<')
    (hafter : Spells after text') :
    Markup.parse (String.ofList (before ++ (source ++ after))) = .ok e := by
  have hnil : ∀ c ∈ ([] : List Char), c ≠ '<' := List.forall_mem_nil _
  have hhead : ∀ c ∈ (source ++ after).head?, c = '<' := by
    intro c hc
    rw [List.head?_append, hsource] at hc
    exact (Option.some.inj hc).symm
  rw [Markup.parse, String.toList_ofList]
  calc (readEvents [] (before ++ (source ++ after))).tree
    _ = (readEvents [] (source ++ after)).treeFrom {} := treeFrom_spells hbefore [] {} hnil rfl hhead
    _ = (readEvents [] after).treeFrom { root? := some e } := h [] rfl after
    _ = (readEvents [] []).treeFrom { root? := some e } := by
      have hstop : ∀ c ∈ ([] : List Char).head?, c = '<' := by simp
      have hend := treeFrom_spells hafter [] { root? := some e } hnil rfl hstop
      rwa [List.append_nil] at hend
    _ = .ok e := by
      rw [readEvents]
      rfl

/-- The element is read with the text that the chunks add up to, or with no child if there is no text. -/
theorem parse_chunks (before inside after : List Chunk) :
    let text := String.ofList (inside.flatMap Chunk.value)
    parse (String.ofList (before.flatMap Chunk.write ++ "<r>".toList ++ inside.flatMap Chunk.write ++
        "</r>".toList ++ after.flatMap Chunk.write)) =
      .ok { name := "r", attributes := [], children := if text = "" then [] else [.text text] } := by
  intro text
  have hreads : ReadsAs (writeAround "r" [] (inside.flatMap Chunk.write)) ⟨"r", [], joinText text []⟩ :=
    .around (by decide) (List.forall_mem_nil _) .nil (Chunk.spells inside).fills
  have hparse := hreads.parse_between (Chunk.spells before) rfl (Chunk.spells after)
  simpa [writeAround, writeTag, joinText] using hparse

end Dialogue.Markup
