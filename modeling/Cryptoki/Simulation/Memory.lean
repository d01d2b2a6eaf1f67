import Cryptoki.Memory

/-! A simulated host with 2 to the 50th bytes of memory. -/

namespace Cryptoki.Simulation

/-- Provides every buffer of less than 2 to the 50th bytes. -/
scoped instance memory : Allocator := ⟨fun bytes _ => bytes < 0x4000000000000⟩

end Cryptoki.Simulation
