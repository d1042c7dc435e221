import AmbientTypes.Registry.Entryless
import AmbientTypes.Registry.General

namespace AmbientTypes.Registry

/-- The registries of a network, with the general one at an address. -/
def sources (client : Network.Client) (base : String) : Sources
  | .general => General.source client base
  | .entryless => Entryless.source client Entryless.defaultBases

end AmbientTypes.Registry
