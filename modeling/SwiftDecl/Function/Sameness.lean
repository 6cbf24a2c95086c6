import SwiftDecl.Function.Basic
import SwiftDecl.TypeRef.Sameness

/-!
# When two functions are the same

Functions are compared field by field, with types compared as references are: by what they mean.
-/

namespace SwiftDecl

instance : BEq Parameter where
  beq p q :=
    p.name == q.name && p.localName == q.localName && p.type == q.type
      && p.defaultValue == q.defaultValue

instance : BEq Function where
  beq f g :=
    f.comments == g.comments && f.isStatic == g.isStatic && f.name == g.name
      && f.generics == g.generics && f.params == g.params && f.throws == g.throws
      && f.returns == g.returns && f.body == g.body

end SwiftDecl
