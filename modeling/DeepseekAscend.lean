import DeepseekAscend.Tensor
import DeepseekAscend.Padding
import DeepseekAscend.Collective
import DeepseekAscend.Layer
import DeepseekAscend.Model
import DeepseekAscend.Theorems.Plan
import DeepseekAscend.Theorems.Layout
import DeepseekAscend.Theorems.RoundTrip
import DeepseekAscend.Theorems.Sums
import DeepseekAscend.Theorems.Sharded
import DeepseekAscend.Theorems.Layers
import DeepseekAscend.Theorems.Stack
import DeepseekAscend.Theorems.Init
import DeepseekAscend.Theorems.Passes
import DeepseekAscend.Theorems.Tokenwise
import DeepseekAscend.Theorems.Agreement
import DeepseekAscend.Theorems.Mc2
